import Mathlib.Data.List.Basic
import ShaderCompose.Text.Lines

/-!
# Lines and numbers in a text

Splitting a text at its breaks gives lines without breaks, and such lines come back when they are
written one after the other and split again.  The numbers that lines are paired with are their
places, and the decimal digits of a number are read back as that number.
-/

set_option autoImplicit false

namespace ShaderCompose.Text

/-! ## Splitting and joining -/

/-- A line without a break in it. -/
def Unbroken (line : Text) : Prop := '\n' ∉ line ∧ '\r' ∉ line

instance (line : Text) : Decidable (Unbroken line) :=
  inferInstanceAs (Decidable ('\n' ∉ line ∧ '\r' ∉ line))

/-- The empty line has no break in it. -/
theorem unbroken_nil : Unbroken [] := by
  simp [Unbroken]

/-- A line has no break in it if neither its first character nor the rest is or has one. -/
theorem unbroken_cons {c : Char} {line : Text} :
    Unbroken (c :: line) ↔ (c ≠ '\n' ∧ c ≠ '\r') ∧ Unbroken line := by
  simp only [Unbroken, List.mem_cons, not_or]
  constructor
  · rintro ⟨⟨hn, hline⟩, hr, hline'⟩
    exact ⟨⟨Ne.symm hn, Ne.symm hr⟩, hline, hline'⟩
  · rintro ⟨⟨hn, hr⟩, hline, hline'⟩
    exact ⟨⟨Ne.symm hn, hline⟩, Ne.symm hr, hline'⟩

/-- A character that is no break belongs to the first of the lines. -/
theorem splitLines_cons {c : Char} (hn : c ≠ '\n') (hr : c ≠ '\r') (t : Text) :
    splitLines (c :: t) = match splitLines t with
      | [] => [[c]]
      | line :: more => (c :: line) :: more := by
  conv_lhs => unfold splitLines
  split
  · contradiction
  · rename_i h; injection h with h; exact absurd h hr
  · rename_i h; injection h with h; exact absurd h hr
  · rename_i h; injection h with h; exact absurd h hn
  · rename_i h; injection h with h h'; subst h; subst h'; rfl

/-- The lines of a text have no breaks in them. -/
theorem unbroken_of_mem_splitLines {t line : Text} (h : line ∈ splitLines t) : Unbroken line := by
  fun_induction splitLines t generalizing line with
  | case1 => simp at h
  | case2 rest ih | case3 rest _ ih | case4 rest ih =>
    rcases List.mem_cons.mp h with rfl | h
    · exact unbroken_nil
    · exact ih h
  | case5 c rest hrn hr hn hrest ih =>
    rcases List.mem_singleton.mp h with rfl
    exact unbroken_cons.mpr ⟨⟨hn, hr⟩, unbroken_nil⟩
  | case6 c rest hrn hr hn first more hrest ih =>
    rcases List.mem_cons.mp h with rfl | h
    · exact unbroken_cons.mpr ⟨⟨hn, hr⟩, ih (by simp [hrest])⟩
    · exact ih (by simp [hrest, h])

/-- A line that is ended by a break is split off whole. -/
theorem splitLines_append_break {line t : Text} {more : List Text} (h : Unbroken line)
    (ht : splitLines t = [] :: more) : splitLines (line ++ t) = line :: more := by
  induction line with
  | nil => exact ht
  | cons c line ih =>
    obtain ⟨⟨hn, hr⟩, hline⟩ := unbroken_cons.mp h
    rw [List.cons_append, splitLines_cons hn hr, ih hline]

/-- A line without breaks and a line feed behind it are split off as one line. -/
theorem splitLines_append_lf {line : Text} (h : Unbroken line) (t : Text) :
    splitLines (line ++ '\n' :: t) = line :: splitLines t :=
  splitLines_append_break h (by simp [splitLines])

/-- Lines without breaks, written one after the other, are split into themselves. -/
theorem splitLines_joinLines {lines : List Text} (h : ∀ line ∈ lines, Unbroken line) :
    splitLines (joinLines lines) = lines := by
  induction lines with
  | nil => rfl
  | cons line more ih =>
    have hline : Unbroken line := h line List.mem_cons_self
    have hmore : ∀ other ∈ more, Unbroken other :=
      fun other ho => h other (List.mem_cons_of_mem _ ho)
    have hjoin : joinLines (line :: more) = line ++ '\n' :: joinLines more := by
      simp [joinLines]
    rw [hjoin, splitLines_append_lf hline, ih hmore]

/-! ## Numbered lines -/

/-- A line is paired with its place, counted from the given number. -/
theorem mem_numberLines {first n : Nat} {line : Text} {lines : List Text} :
    (n, line) ∈ numberLines first lines ↔ ∃ i, n = first + i ∧ lines[i]? = some line := by
  induction lines generalizing first with
  | nil => simp [numberLines]
  | cons other more ih =>
    simp only [numberLines, List.mem_cons, Prod.mk.injEq, ih]
    constructor
    · rintro (⟨rfl, rfl⟩ | ⟨i, rfl, hi⟩)
      · exact ⟨0, by simp⟩
      · exact ⟨i + 1, by omega, by simpa using hi⟩
    · rintro ⟨i, rfl, hi⟩
      cases i with
      | zero => exact Or.inl ⟨by simp, by simpa using hi.symm⟩
      | succ i => exact Or.inr ⟨i, by omega, by simpa using hi⟩

/-- The numbers go up from the first one, one for each line. -/
theorem map_fst_numberLines (first : Nat) (lines : List Text) :
    (numberLines first lines).map Prod.fst = List.range' first lines.length := by
  induction lines generalizing first with
  | nil => rfl
  | cons line more ih =>
    rw [List.length_cons, List.range'_succ, ← ih]
    rfl

/-- Numbering lines does not change them. -/
theorem map_snd_numberLines (first : Nat) (lines : List Text) :
    (numberLines first lines).map Prod.snd = lines := by
  induction lines generalizing first with
  | nil => rfl
  | cons line more ih => simp [numberLines, ih]

/-- There are as many numbered lines as lines. -/
theorem length_numberLines (first : Nat) (lines : List Text) :
    (numberLines first lines).length = lines.length := by
  rw [← List.length_map Prod.snd, map_snd_numberLines]

/-- The numbers of lines ascend. -/
theorem numbers_ascend (first : Nat) (lines : List Text) :
    ((numberLines first lines).map Prod.fst).Pairwise (· < ·) := by
  rw [map_fst_numberLines]
  exact List.pairwise_lt_range'

/-! ## Pieces -/

/-- There is always a piece. -/
theorem pieces_ne_nil (separator : Char) (t : Text) : pieces separator t ≠ [] := by
  cases t with
  | nil => simp [pieces]
  | cons c t =>
    rw [pieces]
    split
    · simp
    · split <;> simp

/-- A separator divides the pieces before it from those after it. -/
theorem pieces_append (separator : Char) (s t : Text) :
    pieces separator (s ++ separator :: t) = pieces separator s ++ pieces separator t := by
  induction s with
  | nil => simp [pieces]
  | cons c s ih =>
    by_cases hc : c = separator
    · simp [pieces, hc, ih]
    · obtain ⟨piece, more, hs⟩ := List.exists_cons_of_ne_nil (pieces_ne_nil separator s)
      simp [pieces, hc, ih, hs]

/-- A text without separators is a single piece. -/
theorem pieces_of_notMem {separator : Char} {t : Text} (h : separator ∉ t) :
    pieces separator t = [t] := by
  induction t with
  | nil => rfl
  | cons c t ih =>
    have hc : c ≠ separator := fun heq => h (heq ▸ List.mem_cons_self)
    have ht : separator ∉ t := fun hmem => h (List.mem_cons_of_mem _ hmem)
    simp [pieces, hc, ih ht]

/-! ## Starts of texts -/

/-- What a text starts with can be dropped. -/
theorem dropStart?_append (start t : Text) : dropStart? (start ++ t) start = some t := by
  induction start with
  | nil => cases t <;> rfl
  | cons c start ih => simp [dropStart?, ih]

/-- What can be dropped is what the text starts with. -/
theorem eq_append_of_dropStart? {t start rest : Text} (h : dropStart? t start = some rest) :
    t = start ++ rest := by
  induction start generalizing t with
  | nil => cases t <;> simpa [dropStart?] using h
  | cons s start ih =>
    cases t with
    | nil => simp [dropStart?] at h
    | cons c t =>
      by_cases hc : c = s
      · simp only [dropStart?, hc, if_true] at h
        rw [hc, ih h, List.cons_append]
      · simp [dropStart?, hc] at h

/-! ## Numbers -/

/-- The number written by the digits of a number is that number. -/
theorem decimalOf_ofNat (n : Nat) : decimalOf (ofNat n) = n :=
  Nat.ofDigitChars_ten_toDigits

/-- A number is written by digits only. -/
theorem isDigit_of_mem_ofNat {n : Nat} {c : Char} (h : c ∈ ofNat n) : c.isDigit :=
  Nat.isDigit_of_mem_toDigits (by decide) (by decide) h

/-- A number is written by one digit at least. -/
theorem ofNat_ne_nil (n : Nat) : ofNat n ≠ [] :=
  Nat.toDigits_ne_nil

end ShaderCompose.Text
