import Mathlib.Data.List.Basic
import ShaderCompose.Text.Normal

/-!
# Normal forms of names

The tables that normal forms are worked out from are searched row by row, one line of a table after
the other.  A search can so be followed line by line, up to the line that has the row.
-/

set_option autoImplicit false

namespace ShaderCompose.Text

open Compatibility

/-- A name in ASCII is its own normal form. -/
theorem normalName_of_ascii {name : Text}
    (h : (name.all fun c => decide (c.toNat < 128)) = true) : normalName name = name := by
  unfold normalName
  rw [if_pos h]

/-- The rows that one line of a table holds. -/
def rowsOf (line : Text) : List (List Nat) :=
  (pieces ' ' line).map fun row => (pieces ',' row).map hexNumber

/-- The rows of the first line of a table come first. -/
theorem rowsIn_cons (line : Text) (lines : List String) :
    rowsIn (String.ofList line :: lines) = rowsOf line ++ rowsIn lines := by
  simp [rowsIn, rowsOf]

section

variable {α : Type} {find : List Nat → Option α} {line : Text} {lines : List String}

/-- A line without the row is passed over. -/
theorem search_skip {found : Option α} (h : (rowsOf line).findSome? find = none)
    (hlines : (rowsIn lines).findSome? find = found) :
    (rowsIn (String.ofList line :: lines)).findSome? find = found := by
  rw [rowsIn_cons, List.findSome?_append, h, hlines, Option.none_or]

/-- The search ends at the line with the row. -/
theorem search_stop {found : α} (h : (rowsOf line).findSome? find = some found) :
    (rowsIn (String.ofList line :: lines)).findSome? find = some found := by
  rw [rowsIn_cons, List.findSome?_append, h, Option.some_or]

end

/-- A code is expanded by the first row that begins with it. -/
theorem expansionIn?_eq_findSome? (code : Nat) (rows : List (List Nat)) :
    expansionIn? code rows = rows.findSome? fun row =>
      if row.head? = some code then some row.tail else none := by
  induction rows with
  | nil => rfl
  | cons row rows ih =>
    cases row with
    | nil => simpa [expansionIn?] using ih
    | cons first image =>
      by_cases hfirst : first = code
      · simp [expansionIn?, hfirst]
      · simp [expansionIn?, hfirst, ih]

/-- Two characters that are not written as one stay apart. -/
theorem composeFrom_pair {a b : Nat} (hpair : pairOf? a b = none) (hclass : markClass b = 0) :
    composeFrom a [] 0 [b] = [a, b] := by
  have hlast : composeFrom b [] 0 [] = [b] := by
    rw [composeFrom]
    rfl
  rw [composeFrom]
  simp only [List.isEmpty_nil, Bool.true_or, if_true, hpair, hclass, hlast]
  rfl

/-! ## A ligature -/

/-- There is no character that the letters i and j are written as. -/
theorem pairOf?_ij : pairOf? 0x69 0x6a = none := by
  unfold pairOf?
  rw [if_neg (by decide), if_neg (by decide)]
  unfold pairs
  repeat refine search_skip (by decide +kernel) ?_
  rfl

/-- The ligature of i and j is expanded to the two letters. -/
theorem expansionIn?_ligature : expansionIn? 0x133 expansions = some [0x69, 0x6a] := by
  rw [expansionIn?_eq_findSome?]
  unfold expansions
  iterate 11 refine search_skip (by decide +kernel) ?_
  exact search_stop (by decide +kernel)

/-- The ligature of i and j is decomposed into the two letters. -/
theorem decomposition_ligature : decomposition 0x133 = [0x69, 0x6a] := by
  have hsyllable : syllableParts? 0x133 = none := by decide
  unfold decomposition
  rw [if_neg (by decide), hsyllable, expansionIn?_ligature]

/-- The ligature of the letters i and j has the two letters for its normal form. -/
theorem normalName_ligature : normalName ['\u0133'] = ['i', 'j'] := by
  have hcode : '\u0133'.toNat = 0x133 := rfl
  have hordered : orderMarks [] [0x69, 0x6a] = [0x69, 0x6a] := by decide
  unfold normalName
  rw [if_neg (by decide), List.flatMap_singleton, hcode, decomposition_ligature, hordered]
  dsimp only
  rw [composeFrom_pair pairOf?_ij (by decide)]
  rfl

end ShaderCompose.Text
