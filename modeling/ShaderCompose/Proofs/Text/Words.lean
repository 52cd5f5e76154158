import Mathlib.Data.List.Chain
import ShaderCompose.Proofs.Text.CharacterRuns
import ShaderCompose.Text.Identifier

/-!
# Characters of names

A character that starts a name is neither a blank nor a digit, and it goes on a word, which a blank
ends.  A late mark goes on a name, but ends a word like a blank.  These are facts about the tables
of the Unicode Standard: no range of one table meets a range of the other.
-/

set_option autoImplicit false

namespace ShaderCompose.Text

/-! ## Tables -/

/-- A character that is covered is in one of the ranges. -/
theorem exists_of_covers {ranges : Ranges} {c : Char} (h : ranges.covers c = true) :
    ∃ range ∈ ranges, range.1 ≤ c.toNat ∧ c.toNat ≤ range.2 := by
  induction ranges with
  | nil => simp [Ranges.covers] at h
  | cons range rest ih =>
    obtain ⟨first, last⟩ := range
    rw [Ranges.covers] at h
    split at h
    · exact absurd h Bool.false_ne_true
    · rename_i hfirst
      rcases Bool.or_eq_true_iff.mp h with hlast | hrest
      · exact ⟨(first, last), List.mem_cons_self, by omega, of_decide_eq_true hlast⟩
      · obtain ⟨range, hmem, hrange⟩ := ih hrest
        exact ⟨range, List.mem_cons_of_mem _ hmem, hrange⟩

/-- Ranges in the order in which they start. -/
def Ascending (ranges : Ranges) : Prop := ranges.Pairwise fun range next => range.1 ≤ next.1

instance (ranges : Ranges) : Decidable (Ascending ranges) :=
  have : IsTrans (Nat × Nat) fun range next => range.1 ≤ next.1 := ⟨fun _ _ _ => Nat.le_trans⟩
  decidable_of_iff (ranges.IsChain fun range next => range.1 ≤ next.1) List.isChain_iff_pairwise

/-- Whether no range of one table meets a range of another, found out in one pass over both. -/
def meetNowhere : Ranges → Ranges → Bool
  | [], _ => true
  | range :: rest, others =>
    match others.dropWhile fun other => Nat.blt other.2 range.1 with
    | [] => true
    | other :: more => Nat.blt range.2 other.1 && meetNowhere rest (other :: more)

/-- The pass misses no meeting: the ranges that it leaves behind lie below all those to come. -/
theorem apart_of_meetNowhere {ranges others : Ranges} (hranges : Ascending ranges)
    (hothers : Ascending others) (h : meetNowhere ranges others = true) {range other : Nat × Nat}
    (hrange : range ∈ ranges) (hother : other ∈ others) :
    other.2 < range.1 ∨ range.2 < other.1 := by
  induction ranges generalizing others with
  | nil => contradiction
  | cons first rest ih =>
    obtain ⟨hfirst, hrest⟩ := List.pairwise_cons.mp hranges
    have hbelow : first.1 ≤ range.1 := by
      rcases List.mem_cons.mp hrange with rfl | hrange
      · exact Nat.le_refl _
      · exact hfirst range hrange
    rw [← List.takeWhile_append_dropWhile (p := fun other => Nat.blt other.2 first.1) (l := others),
      List.mem_append] at hother
    -- what is passed ends in front of the first range, and so in front of all that follow it
    rcases hother with hpassed | hkept
    · have hpast := List.mem_takeWhile_imp hpassed
      rw [Nat.blt_eq] at hpast
      exact .inl (by omega)
    · have hkeptOrder := hothers.sublist
        (List.dropWhile_sublist fun other => Nat.blt other.2 first.1)
      rw [meetNowhere] at h
      generalize others.dropWhile (fun other => Nat.blt other.2 first.1) = kept at h hkept hkeptOrder
      cases kept with
      | nil => contradiction
      | cons next more =>
        rw [Bool.and_eq_true, Nat.blt_eq] at h
        rcases List.mem_cons.mp hrange with rfl | hrange
        · have hnext : next.1 ≤ other.1 := by
            rcases List.mem_cons.mp hkept with rfl | hmore
            · exact Nat.le_refl _
            · exact (List.pairwise_cons.mp hkeptOrder).1 other hmore
          exact .inr (by omega)
        · exact ih hrest hkeptOrder h.2 hrange hkept

/-- No character is in both tables. -/
structure Apart (ranges others : Ranges) : Prop where
  ascending : Ascending ranges ∧ Ascending others
  apart : meetNowhere ranges others = true

instance (ranges others : Ranges) : Decidable (Apart ranges others) :=
  decidable_of_iff ((Ascending ranges ∧ Ascending others) ∧ meetNowhere ranges others = true)
    ⟨fun h => ⟨h.1, h.2⟩, fun h => ⟨h.ascending, h.apart⟩⟩

/-- A character in one of two tables that are apart is in no range of the other. -/
theorem Apart.not_covers {ranges others : Ranges} (hapart : Apart ranges others) {c : Char}
    (h : ranges.covers c = true) {other : Nat × Nat} (hother : other ∈ others) :
    ¬(other.1 ≤ c.toNat ∧ c.toNat ≤ other.2) := by
  obtain ⟨range, hmem, hrange⟩ := exists_of_covers h
  have hside := apart_of_meetNowhere hapart.ascending.1 hapart.ascending.2 hapart.apart hmem hother
  omega

/-! ## Words and names -/

/-- What none of the blanks has, a blank does not have. -/
theorem of_isBlank {p : Char → Bool} {c : Char} (hblank : isBlank c = true)
    (h : ∀ n ∈ blankCodes, p (Char.ofNat n) = false) : p c = false := by
  have hc := h c.toNat (mem_blankCodes hblank)
  rwa [Char.ofNat_toNat] at hc

/-- A name starts with what names start with. -/
theorem isNameStart_of_isName {c : Char} {rest : Text} (h : isName (c :: rest) = true) :
    isNameStart c = true := by
  rw [isName, Bool.and_eq_true] at h
  exact h.1

/-- A name consists of characters that go on names. -/
theorem isNameChar_of_isName {v : Text} (hname : isName v = true) {c : Char} (hc : c ∈ v) :
    isNameChar c = true := by
  cases v with
  | nil => simp at hc
  | cons d v =>
    rw [isName, Bool.and_eq_true, List.all_eq_true] at hname
    rcases List.mem_cons.mp hc with rfl | hc
    · simp [isNameChar, hname.1]
    · exact hname.2 c hc

/-- What goes on names is no blank. -/
theorem isBlank_of_isNameChar {c : Char} (h : isNameChar c = true) : isBlank c = false := by
  rw [← Bool.not_eq_true]
  intro hblank
  have hnot : isNameChar c = false := of_isBlank hblank (by decide +kernel)
  exact Bool.false_ne_true (hnot.symm.trans h)

/-- What starts names is no blank. -/
theorem isBlank_of_isNameStart {c : Char} (h : isNameStart c = true) : isBlank c = false :=
  isBlank_of_isNameChar (by simp [isNameChar, h])

/-- Text in which all characters hang together. -/
def IsWord (t : Text) : Prop := ∀ c ∈ t, isWordChar c = true

instance (t : Text) : Decidable (IsWord t) :=
  List.decidableBAll (fun c => isWordChar c = true) t

/-- A blank does not go on words. -/
theorem isWordChar_of_isBlank {c : Char} (h : isBlank c = true) : isWordChar c = false :=
  of_isBlank h (by decide +kernel)

/-- The digits of all scripts. -/
def digitRanges : Ranges := zeroCodes.map fun code => (code, code + 9)

/-- A character in a table that is apart from the digits is no digit. -/
theorem isDigit_of_apart {ranges : Ranges} (hapart : Apart ranges digitRanges) {c : Char}
    (h : ranges.covers c = true) : isDigit c = false := by
  rw [← Bool.not_eq_true, isDigit_iff]
  rintro ⟨code, hcode, hdigit⟩
  exact hapart.not_covers h (List.mem_map_of_mem hcode) hdigit

/-- What starts names is no digit. -/
theorem isDigit_of_isNameStart {c : Char} (h : isNameStart c = true) : isDigit c = false :=
  isDigit_of_apart (by decide +kernel : Apart nameStartRanges digitRanges) h

/-- A name starts with a word. -/
theorem isWordChar_of_isNameStart {c : Char} (h : isNameStart c = true) : isWordChar c = true := by
  have hapart : Apart nameStartRanges lateMarkRanges := by decide +kernel
  have hlate : lateMarkRanges.covers c = false := by
    rw [← Bool.not_eq_true]
    intro hlate
    obtain ⟨range, hmem, hrange⟩ := exists_of_covers hlate
    exact hapart.not_covers h hmem hrange
  simp [isWordChar, isNameChar, h, hlate]

/-! ## Late marks -/

/-- A character that goes on names, but not words. -/
structure LateMark (c : Char) : Prop where
  isNameChar : isNameChar c = true
  apart : isWordChar c = false

namespace LateMark

variable {c : Char}

/-- A late mark is no digit. -/
theorem isDigit (h : LateMark c) : isDigit c = false := by
  have hlate : lateMarkRanges.covers c = true := by
    have hapart := h.apart
    simp only [isWordChar, h.isNameChar, Bool.true_and, Bool.or_eq_false_iff,
      Bool.not_eq_false'] at hapart
    exact hapart.1
  exact isDigit_of_apart (by decide +kernel : Apart lateMarkRanges digitRanges) hlate

/-- A late mark differs from all characters that do not go on names. -/
theorem ne (h : LateMark c) {d : Char} (hd : Text.isNameChar d = false) : c ≠ d := by
  rintro rfl
  exact Bool.false_ne_true (hd.symm.trans h.isNameChar)

end LateMark

end ShaderCompose.Text
