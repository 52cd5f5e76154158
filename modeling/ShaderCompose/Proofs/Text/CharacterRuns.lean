import Mathlib.Data.List.TakeWhile
import ShaderCompose.Text.Blank
import ShaderCompose.Text.Digit

/-!
# Runs of characters

Scanners cut a text where a run of characters of one kind ends.  Such a run is read off whole if a
character of another kind is behind it, and that is what is behind the longest run.  Blanks and
digits are kinds that have no character in common.
-/

set_option autoImplicit false

namespace ShaderCompose.Text

/-! ## Longest runs -/

section

variable {p : Char → Bool} {run rest : Text}

/-- A run of characters of some kind ends where a character of another kind follows. -/
theorem takeWhile_run (hrun : ∀ c ∈ run, p c = true) (hrest : ∀ c ∈ rest.head?, p c = false) :
    (run ++ rest).takeWhile p = run ∧ (run ++ rest).dropWhile p = rest := by
  rw [List.takeWhile_append_of_pos hrun, List.dropWhile_append_of_pos hrun]
  cases rest with
  | nil => simp
  | cons c rest =>
    have hc : p c = false := hrest c rfl
    simp [hc]

/-- What is behind the longest run starts with a character of another kind. -/
theorem head?_behind_run (t : Text) : ∀ c ∈ (t.dropWhile p).head?, p c = false := by
  intro c hc
  have hnot := List.head?_dropWhile_not p t
  rw [Option.mem_def.mp hc] at hnot
  exact hnot

end

/-! ## The first place of a character -/

section

variable {c : Char}

/-- A text is cut at a character that is not in front of the cut. -/
theorem takeWhile_ne_append {front : Text} (h : c ∉ front) (tail : Text) :
    (front ++ c :: tail).takeWhile (· ≠ c) = front ∧
      (front ++ c :: tail).dropWhile (· ≠ c) = c :: tail := by
  refine takeWhile_run ?_ (by simp)
  intro d hd
  rw [decide_eq_true_eq]
  rintro rfl
  exact h hd

/-- A character that is left at the start of what is behind a run is the one that the run goes up
to. -/
theorem of_dropWhile_ne {d : Char} {t tail : Text} (h : t.dropWhile (· ≠ c) = d :: tail) :
    c ∉ t.takeWhile (· ≠ c) ∧ t = t.takeWhile (· ≠ c) ++ c :: tail := by
  have hbehind := head?_behind_run (p := fun e => decide (e ≠ c)) t
  rw [h] at hbehind
  obtain rfl : d = c := by simpa using hbehind d rfl
  constructor
  · intro hmem
    simpa using List.mem_takeWhile_imp hmem
  · rw [← h, List.takeWhile_append_dropWhile]

end

/-! ## Blanks -/

/-- A stretch of blanks, which may be empty. -/
def Blank (t : Text) : Prop := ∀ c ∈ t, isBlank c = true

instance (t : Text) : Decidable t.Blank := List.decidableBAll (fun c => isBlank c = true) t

/-- The run of blanks at the start of a text is blank. -/
theorem blank_takeWhile (t : Text) : Blank (t.takeWhile isBlank) :=
  fun _ hc => List.mem_takeWhile_imp hc

/-- Blanks are skipped up to a text that starts with none. -/
theorem Blank.takeWhile {blanks rest : Text} (h : blanks.Blank)
    (hrest : ∀ c ∈ rest.head?, isBlank c = false) :
    (blanks ++ rest).takeWhile isBlank = blanks ∧ (blanks ++ rest).dropWhile isBlank = rest :=
  takeWhile_run h hrest

/-! ## Digits -/

/-- A digit is one of the ten characters from a zero of some script on. -/
theorem isDigit_iff {c : Char} :
    isDigit c = true ↔ ∃ code ∈ zeroCodes, code ≤ c.toNat ∧ c.toNat ≤ code + 9 := by
  simp [isDigit, digitValue?]

/-- The code points of the blanks. -/
def blankCodes : List Nat :=
  [9, 10, 11, 12, 13, 28, 29, 30, 31, 32, 0x85, 0xa0, 0x1680, 0x2000, 0x2001, 0x2002, 0x2003,
    0x2004, 0x2005, 0x2006, 0x2007, 0x2008, 0x2009, 0x200a, 0x2028, 0x2029, 0x202f, 0x205f, 0x3000]

/-- The blanks are the characters with one of these codes. -/
theorem mem_blankCodes {c : Char} (h : isBlank c = true) : c.toNat ∈ blankCodes := by
  simp only [isBlank, Bool.or_eq_true, decide_eq_true_eq, beq_iff_eq] at h
  simp only [blankCodes, List.mem_cons, List.not_mem_nil, or_false]
  omega

/-- No blank is a digit. -/
theorem isDigit_of_isBlank {c : Char} (h : isBlank c = true) : isDigit c = false := by
  have hapart : ∀ n ∈ blankCodes, ∀ code ∈ zeroCodes, ¬ (code ≤ n ∧ n ≤ code + 9) := by
    decide +kernel
  rw [← Bool.not_eq_true, isDigit_iff]
  rintro ⟨code, hcode, hrange⟩
  exact hapart c.toNat (mem_blankCodes h) code hcode hrange

/-- No digit is a blank. -/
theorem isBlank_of_isDigit {c : Char} (h : isDigit c = true) : isBlank c = false := by
  rw [← Bool.not_eq_true]
  intro hblank
  rw [isDigit_of_isBlank hblank] at h
  exact Bool.false_ne_true h

/-- A number in any script: decimal digits, one at least. -/
def Numeral (t : Text) : Prop := t ≠ [] ∧ ∀ c ∈ t, isDigit c = true

instance (t : Text) : Decidable t.Numeral :=
  decidable_of_iff (t ≠ [] ∧ t.all isDigit = true) (by simp [Numeral])

/-- The run of digits at the start of a text is a numeral, unless it is empty. -/
theorem numeral_of_takeWhile {t : Text} {c : Char} {more : Text}
    (h : t.takeWhile isDigit = c :: more) : Numeral (c :: more) := by
  refine ⟨List.cons_ne_nil c more, ?_⟩
  rw [← h]
  exact fun _ hd => List.mem_takeWhile_imp hd

section

variable {digits : Text} (h : digits.Numeral)

include h

/-- A numeral starts with a digit, which is no blank. -/
theorem Numeral.exists_cons :
    ∃ d more, digits = d :: more ∧ isDigit d = true ∧ isBlank d = false := by
  obtain ⟨hne, hall⟩ := h
  obtain ⟨d, more, rfl⟩ := List.exists_cons_of_ne_nil hne
  have hd : isDigit d = true := hall d List.mem_cons_self
  exact ⟨d, more, rfl, hd, isBlank_of_isDigit hd⟩

/-- A number is read off up to a character that is no digit. -/
theorem Numeral.takeWhile {c : Char} (hc : isDigit c = false) (rest : Text) :
    (digits ++ c :: rest).takeWhile isDigit = digits ∧
      (digits ++ c :: rest).dropWhile isDigit = c :: rest := by
  apply takeWhile_run h.2
  intro d hd
  obtain rfl : c = d := by simpa using hd
  exact hc

end

end ShaderCompose.Text
