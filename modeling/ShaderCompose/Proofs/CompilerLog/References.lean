import ShaderCompose.CompilerLog
import ShaderCompose.Proofs.Text.CharacterRuns
import ShaderCompose.Proofs.Text.Lines

/-!
# References in compiler logs

A line of a log refers to a file if, behind blanks, it has a file index with a line number in
parentheses behind it, or with a colon and a line number; in the second form a word with a colon may
stand in front of the index.  `Reference.Fits` says so without a scanner, by what the line consists
of.  The scanner finds exactly these references (`reference?_eq_some_iff`), so no line has two.
-/

set_option autoImplicit false

namespace ShaderCompose.CompilerLog

open Text (Blank Numeral)

/-- The line that a reference is the start of. -/
def Reference.line (ref : Reference) : Text := ref.lead ++ (ref.digits ++ ref.rest)

/-- The forms that a reference can have. -/
inductive Reference.Fits : Reference → Prop
  | parenthesized {blanks digits number rest : Text} :
      Blank blanks → Numeral digits → Numeral number →
        Fits ⟨blanks, digits, '(' :: (number ++ ')' :: rest)⟩
  | separated {blanks digits number rest : Text} :
      Blank blanks → Numeral digits → Numeral number →
        Fits ⟨blanks, digits, ':' :: (number ++ rest)⟩
  | labelled {blanks word gap digits number rest : Text} :
      Blank blanks → word ∈ words → Blank gap → Numeral digits → Numeral number →
        Fits ⟨blanks ++ (word ++ gap), digits, ':' :: (number ++ rest)⟩

/-- The scan of blanks stops where the numeral behind them begins. -/
theorem takeWhile_blanks_numeral {blanks digits : Text} (hblanks : Blank blanks)
    (hdigits : Numeral digits) (rest : Text) :
    (blanks ++ (digits ++ rest)).takeWhile Text.isBlank = blanks ∧
      (blanks ++ (digits ++ rest)).dropWhile Text.isBlank = digits ++ rest := by
  obtain ⟨d, more, rfl, -, hd⟩ := hdigits.exists_cons
  exact hblanks.takeWhile (by simpa using hd)

/-! ## Line numbers in parentheses -/

/-- A line in the form with parentheses is found by the scanner for this form, whatever follows
it. -/
theorem parenthesized?_of_fits {blanks digits number : Text} (hblanks : Blank blanks)
    (hdigits : Numeral digits) (hnumber : Numeral number) (rest : Text) :
    parenthesized? (blanks ++ (digits ++ '(' :: (number ++ ')' :: rest))) =
      some ⟨blanks, digits, '(' :: (number ++ ')' :: rest)⟩ := by
  obtain ⟨hlead, hbody⟩ :=
    takeWhile_blanks_numeral hblanks hdigits ('(' :: (number ++ ')' :: rest))
  obtain ⟨htake, hdrop⟩ := hdigits.takeWhile (c := '(') (by decide) (number ++ ')' :: rest)
  obtain ⟨htake', hdrop'⟩ := hnumber.takeWhile (c := ')') (by decide) rest
  obtain ⟨d, more, rfl, -⟩ := hdigits.exists_cons
  obtain ⟨d', more', rfl, -⟩ := hnumber.exists_cons
  unfold parenthesized?
  simp only [hlead, hbody, htake, hdrop, htake', hdrop']

/-- What the scanner for parentheses finds is a reference of one of the forms, and the line starts
with it. -/
theorem fits_of_parenthesized? {line : Text} {ref : Reference}
    (h : parenthesized? line = some ref) : ref.Fits ∧ ref.line = line := by
  have hline := List.takeWhile_append_dropWhile (p := Text.isBlank) (l := line)
  have hblank := Text.blank_takeWhile line
  unfold parenthesized? at h
  dsimp only at h
  generalize line.takeWhile Text.isBlank = blanks at h hline hblank
  generalize line.dropWhile Text.isBlank = body at h hline
  have hbody := List.takeWhile_append_dropWhile (p := Text.isDigit) (l := body)
  split at h
  · next d more rest htake hdrop =>
    have hrest := List.takeWhile_append_dropWhile (p := Text.isDigit) (l := rest)
    split at h
    · next d' more' tail htake' hdrop' =>
      rw [htake', hdrop'] at hrest
      rw [htake, hdrop, ← hrest] at hbody
      rw [htake, ← hrest] at h
      rw [← Option.some.inj h]
      refine ⟨.parenthesized hblank (Text.numeral_of_takeWhile htake)
        (Text.numeral_of_takeWhile htake'), ?_⟩
      rw [← hline, ← hbody]
      rfl
    · simp at h
  · simp at h

/-! ## Line numbers behind a colon -/

/-- The reference with a colon at the start of a text that has something in front of it. -/
def colonAt? (lead body : Text) : Option Reference :=
  match body.takeWhile Text.isDigit, body.dropWhile Text.isDigit with
  | d :: more, ':' :: rest =>
    if startsWithDigit rest then some ⟨lead, d :: more, ':' :: rest⟩ else none
  | _, _ => none

/-- A reference with a colon is looked for behind the blanks, and behind a word with the blanks that
follow it if there is one. -/
theorem separated?_eq (line : Text) :
    separated? line =
      match dropWord? (line.dropWhile Text.isBlank) words with
      | none => colonAt? (line.takeWhile Text.isBlank) (line.dropWhile Text.isBlank)
      | some (word, rest) =>
        colonAt? (line.takeWhile Text.isBlank ++ (word ++ rest.takeWhile Text.isBlank))
          (rest.dropWhile Text.isBlank) := by
  unfold separated? colonAt?
  dsimp only
  rcases dropWord? (line.dropWhile Text.isBlank) words with _ | ⟨word, rest⟩
  · dsimp only
    split <;> simp_all
  · dsimp only
    rw [List.append_assoc]
    split <;> simp_all

/-- A file index, a colon and a line number are found whatever stands in front of them and behind
them. -/
theorem colonAt?_of_fits {digits number : Text} (hdigits : Numeral digits)
    (hnumber : Numeral number) (lead rest : Text) :
    colonAt? lead (digits ++ ':' :: (number ++ rest)) =
      some ⟨lead, digits, ':' :: (number ++ rest)⟩ := by
  obtain ⟨htake, hdrop⟩ := hdigits.takeWhile (c := ':') (by decide) (number ++ rest)
  obtain ⟨d, more, rfl, -⟩ := hdigits.exists_cons
  obtain ⟨d', more', rfl, hd', -⟩ := hnumber.exists_cons
  have hstarts : startsWithDigit (d' :: more' ++ rest) = true := hd'
  unfold colonAt?
  simp only [htake, hdrop, hstarts, if_true]

/-- What is found so consists of a file index, a colon and a line number, with the given lead in
front. -/
theorem exists_of_colonAt? {lead body : Text} {ref : Reference}
    (h : colonAt? lead body = some ref) :
    ∃ digits number rest, Numeral digits ∧ Numeral number ∧
      body = digits ++ ':' :: (number ++ rest) ∧ ref = ⟨lead, digits, ':' :: (number ++ rest)⟩ := by
  have hbody := List.takeWhile_append_dropWhile (p := Text.isDigit) (l := body)
  unfold colonAt? at h
  split at h
  · next d more rest htake hdrop =>
    rw [htake, hdrop] at hbody
    split at h
    · next hstarts =>
      cases rest with
      | nil => simp [startsWithDigit] at hstarts
      | cons d' tail =>
        -- one digit is enough for the line number, whatever follows it
        have hnumber : Numeral [d'] := ⟨by simp, by simpa [startsWithDigit] using hstarts⟩
        exact ⟨d :: more, [d'], tail, Text.numeral_of_takeWhile htake, hnumber, hbody.symm,
          (Option.some.inj h).symm⟩
    · simp at h
  · simp at h

/-! ## Words in front of a reference -/

/-- A word that is taken off is one of the choices, and the text is the word and what is left of
it. -/
theorem exists_of_dropWord? {t word rest : Text} {choices : List Text}
    (h : dropWord? t choices = some (word, rest)) : word ∈ choices ∧ t = word ++ rest := by
  induction choices with
  | nil => simp [dropWord?] at h
  | cons first more ih =>
    rw [dropWord?] at h
    split at h
    · next found hfound =>
      obtain ⟨rfl, rfl⟩ := Prod.mk.inj (Option.some.inj h)
      exact ⟨List.mem_cons_self, Text.eq_append_of_dropStart? hfound⟩
    · obtain ⟨hmem, heq⟩ := ih h
      exact ⟨List.mem_cons_of_mem _ hmem, heq⟩

/-- If no word can be taken off a text, it starts with none of the choices. -/
theorem ne_append_of_dropWord? {t : Text} {choices : List Text} (h : dropWord? t choices = none)
    {word : Text} (hword : word ∈ choices) (rest : Text) : t ≠ word ++ rest := by
  induction choices with
  | nil => simp at hword
  | cons first more ih =>
    rw [dropWord?] at h
    split at h
    · simp at h
    · next hnone =>
      rcases List.mem_cons.mp hword with rfl | hword
      · rintro rfl
        simp [Text.dropStart?_append] at hnone
      · exact ih h hword

/-- A word starts with a character that is neither a blank nor a digit. -/
theorem exists_cons_of_mem_words {word : Text} (h : word ∈ words) :
    ∃ c more, word = c :: more ∧ Text.isBlank c = false ∧ Text.isDigit c = false := by
  have hall : ∀ word ∈ words, (word.head?.any fun c =>
      !Text.isBlank c && !Text.isDigit c) = true := by
    decide
  have hword := hall word h
  cases word with
  | nil => simp at hword
  | cons c more => exact ⟨c, more, rfl, by simpa using hword⟩

/-- No word is the start of another one. -/
theorem eq_of_words_append {word other s t : Text} (hword : word ∈ words) (hother : other ∈ words)
    (h : word ++ s = other ++ t) : word = other ∧ s = t := by
  have hfirst : ∀ word ∈ words, ∀ other ∈ words, word.head? = other.head? → word = other := by
    decide
  obtain ⟨c, more, hc, -⟩ := exists_cons_of_mem_words hword
  obtain ⟨d, more', hd, -⟩ := exists_cons_of_mem_words hother
  have hsame : word = other := by
    apply hfirst word hword other hother
    rw [hc, hd] at h ⊢
    exact congrArg some (List.cons.inj h).1
  rw [hsame] at h
  exact ⟨hsame, List.append_cancel_left h⟩

/-- A numeral does not start with a word, since no word starts with a digit. -/
theorem dropWord?_numeral {digits : Text} (h : Numeral digits) (rest : Text) :
    dropWord? (digits ++ rest) words = none := by
  cases hdrop : dropWord? (digits ++ rest) words with
  | none => rfl
  | some found =>
    obtain ⟨word, tail⟩ := found
    obtain ⟨hword, heq⟩ := exists_of_dropWord? hdrop
    obtain ⟨c, more, rfl, -, hc⟩ := exists_cons_of_mem_words hword
    obtain ⟨d, more', rfl, hd, -⟩ := h.exists_cons
    obtain rfl : d = c := (List.cons.inj heq).1
    rw [hc] at hd
    exact absurd hd Bool.false_ne_true

/-- None of the words starts another one, so the word that a text starts with is the one taken off
it. -/
theorem dropWord?_append {word : Text} (h : word ∈ words) (rest : Text) :
    dropWord? (word ++ rest) words = some (word, rest) := by
  cases hdrop : dropWord? (word ++ rest) words with
  | none => exact absurd rfl (ne_append_of_dropWord? hdrop h rest)
  | some found =>
    obtain ⟨other, tail⟩ := found
    obtain ⟨hother, heq⟩ := exists_of_dropWord? hdrop
    obtain ⟨rfl, rfl⟩ := eq_of_words_append h hother heq
    rfl

/-- What is found in the form with a colon is a reference of one of the forms, and the line starts
with it. -/
theorem fits_of_separated? {line : Text} {ref : Reference} (h : separated? line = some ref) :
    ref.Fits ∧ ref.line = line := by
  have hline := List.takeWhile_append_dropWhile (p := Text.isBlank) (l := line)
  have hblanks := Text.blank_takeWhile line
  rw [separated?_eq] at h
  split at h
  · obtain ⟨digits, number, rest, hdigits, hnumber, hbody, rfl⟩ := exists_of_colonAt? h
    refine ⟨.separated hblanks hdigits hnumber, ?_⟩
    conv_rhs => rw [← hline, hbody]
    rfl
  · next word rest hdrop =>
    obtain ⟨digits, number, tail, hdigits, hnumber, hbody, rfl⟩ := exists_of_colonAt? h
    obtain ⟨hword, heq⟩ := exists_of_dropWord? hdrop
    have hrest := List.takeWhile_append_dropWhile (p := Text.isBlank) (l := rest)
    refine ⟨.labelled hblanks hword (Text.blank_takeWhile rest) hdigits hnumber, ?_⟩
    conv_rhs => rw [← hline, heq, ← hrest, hbody]
    simp [Reference.line]

/-! ## The reference of a line -/

/-- A line with a colon behind its file index is a reference, since no parenthesis follows the
index. -/
theorem reference?_of_separated {blanks digits number : Text} (hblanks : Blank blanks)
    (hdigits : Numeral digits) (hnumber : Numeral number) (rest : Text) :
    reference? (blanks ++ (digits ++ ':' :: (number ++ rest))) =
      some ⟨blanks, digits, ':' :: (number ++ rest)⟩ := by
  obtain ⟨hlead, hbody⟩ := takeWhile_blanks_numeral hblanks hdigits (':' :: (number ++ rest))
  obtain ⟨htake, hdrop⟩ := hdigits.takeWhile (c := ':') (by decide) (number ++ rest)
  have hparenthesized :
      parenthesized? (blanks ++ (digits ++ ':' :: (number ++ rest))) = none := by
    unfold parenthesized?
    simp [hbody, htake, hdrop]
  unfold reference?
  rw [hparenthesized]
  dsimp only
  rw [separated?_eq, hlead, hbody, dropWord?_numeral hdigits]
  exact colonAt?_of_fits hdigits hnumber blanks rest

/-- A line with a word in front of its file index, and a colon behind it, is a reference as well. -/
theorem reference?_of_labelled {blanks word gap digits number : Text} (hblanks : Blank blanks)
    (hword : word ∈ words) (hgap : Blank gap) (hdigits : Numeral digits)
    (hnumber : Numeral number) (rest : Text) :
    reference? (blanks ++ (word ++ (gap ++ (digits ++ ':' :: (number ++ rest))))) =
      some ⟨blanks ++ (word ++ gap), digits, ':' :: (number ++ rest)⟩ := by
  obtain ⟨c, more, hcons, hblank, hdigit⟩ := exists_cons_of_mem_words hword
  obtain ⟨hgapTake, hgapDrop⟩ :=
    takeWhile_blanks_numeral hgap hdigits (':' :: (number ++ rest))
  have hfound := colonAt?_of_fits hdigits hnumber (blanks ++ (word ++ gap)) rest
  generalize digits ++ ':' :: (number ++ rest) = body at hgapTake hgapDrop hfound ⊢
  obtain ⟨hlead, hdrop⟩ :
      (blanks ++ (word ++ (gap ++ body))).takeWhile Text.isBlank = blanks ∧
        (blanks ++ (word ++ (gap ++ body))).dropWhile Text.isBlank = word ++ (gap ++ body) :=
    hblanks.takeWhile (by simpa [hcons] using hblank)
  have hnone : (word ++ (gap ++ body)).takeWhile Text.isDigit = [] := by
    rw [hcons]
    simp [hdigit]
  have hparenthesized : parenthesized? (blanks ++ (word ++ (gap ++ body))) = none := by
    unfold parenthesized?
    simp only [hdrop, hnone]
  unfold reference?
  rw [hparenthesized]
  dsimp only
  rw [separated?_eq, hlead, hdrop, dropWord?_append hword]
  dsimp only
  rw [hgapTake, hgapDrop, hfound]

/-- The reference that is found in a line is the one that the line consists of. -/
theorem reference?_eq_some_iff {line : Text} {ref : Reference} :
    reference? line = some ref ↔ ref.Fits ∧ ref.line = line := by
  constructor
  · intro h
    unfold reference? at h
    split at h
    · next found hfound =>
      obtain rfl : found = ref := Option.some.inj h
      exact fits_of_parenthesized? hfound
    · exact fits_of_separated? h
  · rintro ⟨hfits, rfl⟩
    cases hfits with
    | parenthesized hblanks hdigits hnumber =>
      unfold reference? Reference.line
      rw [parenthesized?_of_fits hblanks hdigits hnumber]
    | separated hblanks hdigits hnumber =>
      exact reference?_of_separated hblanks hdigits hnumber _
    | labelled hblanks hword hgap hdigits hnumber =>
      unfold Reference.line
      rw [List.append_assoc, List.append_assoc]
      exact reference?_of_labelled hblanks hword hgap hdigits hnumber _

/-- A line has one reference at most: two that are the start of one line are equal. -/
theorem Reference.Fits.unique {ref other : Reference} (h : ref.Fits) (hother : other.Fits)
    (hline : ref.line = other.line) : ref = other := by
  have hfound := reference?_eq_some_iff.mpr ⟨h, hline⟩
  rw [reference?_eq_some_iff.mpr ⟨hother, rfl⟩] at hfound
  exact (Option.some.inj hfound).symm

end ShaderCompose.CompilerLog
