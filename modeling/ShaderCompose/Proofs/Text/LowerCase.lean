import Mathlib.Data.List.TakeWhile
import ShaderCompose.Text.Case

/-!
# Lower case

Two characters keep lower-casing from acting on each character by itself.  The capital I with a dot
above is the one that becomes longer, so the lower case of a text exceeds it by the number of its
dotted capitals.  The capital sigma looks at its neighbours: when more text comes behind a text that
ends in a sigma of final form, and that text begins with a letter, the sigma loses the final form.
In every other case the lower case of a text starts with the lower case of what the text starts
with.  A slash keeps the texts on its two sides apart.
-/

set_option autoImplicit false

namespace ShaderCompose.Text

/-! ## Lengths -/

/-- The capital I with a dot above. -/
def dottedCapital : Char := Char.ofNat 0x130

/-- The dotted capital is told by its code. -/
theorem eq_dottedCapital_iff {c : Char} : c = dottedCapital ↔ c.toNat = 0x130 := by
  constructor
  · rintro rfl
    rfl
  · intro h
    rw [← Char.ofNat_toNat c, h]
    rfl

/-- The lower case of a character is one character, except that of the dotted capital, which is
two. -/
theorem length_lowerChar (c : Char) :
    (lowerChar c).length = 1 + if c = dottedCapital then 1 else 0 := by
  unfold lowerChar
  by_cases hc : c.toNat = 0x130
  · rw [if_pos hc, if_pos (eq_dottedCapital_iff.mpr hc)]
    rfl
  · rw [if_neg hc, if_neg (mt eq_dottedCapital_iff.mp hc)]
    cases imageUnder? lowerRuns c.toNat with
    | none => rfl
    | some n => rfl

/-- The lower case of a text is longer than the text by the number of its dotted capitals. -/
theorem length_lowerAfter (before t : Text) :
    (lowerAfter before t).length = t.length + t.count dottedCapital := by
  induction t generalizing before with
  | nil => rfl
  | cons c rest ih =>
    have hcount : (c :: rest).count dottedCapital =
        rest.count dottedCapital + if c = dottedCapital then 1 else 0 := by
      rw [List.count_cons]
      simp only [beq_iff_eq]
    rw [lowerAfter, List.length_append, ih, List.length_cons, hcount]
    by_cases hsigma : c = capitalSigma
    · have hplain : c ≠ dottedCapital := by
        rw [hsigma]
        decide
      rw [if_pos hsigma, if_neg hplain, List.length_singleton]
      omega
    · rw [if_neg hsigma, length_lowerChar]
      omega

/-- The lower case of a text is longer than the text by its dotted capitals. -/
theorem length_lower (t : Text) : (lower t).length = t.length + t.count dottedCapital :=
  length_lowerAfter [] t

/-- A text whose lower case is the start of that of another text, and which is no shorter than the
other, has all of its lower case, unless the other text holds a dotted capital. -/
theorem lower_eq_of_length_le {s t : Text} (hstart : lower s <+: lower t)
    (hlength : t.length ≤ s.length) (hdot : dottedCapital ∉ t) : lower s = lower t := by
  apply hstart.eq_of_length_le
  have ht : (lower t).length = t.length := by
    rw [length_lower, List.count_eq_zero.mpr hdot, Nat.add_zero]
  have hs : s.length ≤ (lower s).length := by
    rw [length_lower]
    omega
  omega

/-! ## Starts of texts -/

/-- Characters that are skipped make no difference to the letter that is met behind them. -/
theorem meetsCased_append_of_ignorable {t : Text} (h : ∀ c ∈ t, isCaseIgnorable c = true)
    (more : Text) : meetsCased (t ++ more) = meetsCased more := by
  unfold meetsCased
  have hnone : t.dropWhile isCaseIgnorable = [] := List.dropWhile_eq_nil_iff.mpr h
  rw [List.dropWhile_append, hnone, List.isEmpty_nil, if_pos rfl]

/-- A text of skipped characters only has no letter to meet. -/
theorem meetsCased_of_ignorable {t : Text} (h : ∀ c ∈ t, isCaseIgnorable c = true) :
    meetsCased t = false := by
  have happend := meetsCased_append_of_ignorable h []
  rw [List.append_nil] at happend
  exact happend

/-- What is met in a text that has a character which is not skipped is met without what comes
behind the text. -/
theorem meetsCased_append_of_not_ignorable {t : Text}
    (h : ¬ ∀ c ∈ t, isCaseIgnorable c = true) (more : Text) :
    meetsCased (t ++ more) = meetsCased t := by
  unfold meetsCased
  obtain ⟨c, rest, hsome⟩ : ∃ c rest, t.dropWhile isCaseIgnorable = c :: rest := by
    apply List.exists_cons_of_ne_nil
    rwa [Ne, List.dropWhile_eq_nil_iff]
  rw [List.dropWhile_append, hsome]
  rfl

/-- A text, behind the given reversed text, that ends in a sigma of final form: a capital sigma with
a letter in front of it and nothing but skipped characters behind it. -/
def EndsInSigma (before t : Text) : Prop :=
  ∃ word tail, t = word ++ capitalSigma :: tail ∧ meetsCased (word.reverse ++ before) = true ∧
    ∀ c ∈ tail, isCaseIgnorable c = true

/-- An empty text ends in no sigma. -/
theorem not_endsInSigma_nil (before : Text) : ¬ EndsInSigma before [] := by
  rintro ⟨word, tail, hnil, -⟩
  simp at hnil

/-- A text ends in a sigma of final form if it begins with one that is its end, or if the rest of
it does. -/
theorem endsInSigma_cons {before rest : Text} {c : Char} :
    EndsInSigma before (c :: rest) ↔
      (c = capitalSigma ∧ meetsCased before = true ∧ ∀ d ∈ rest, isCaseIgnorable d = true) ∨
        EndsInSigma (c :: before) rest := by
  constructor
  · rintro ⟨word, tail, heq, hword, htail⟩
    cases word with
    | nil =>
      obtain ⟨rfl, rfl⟩ := List.cons.inj heq
      exact Or.inl ⟨rfl, hword, htail⟩
    | cons d word =>
      obtain ⟨rfl, rfl⟩ := List.cons.inj heq
      refine Or.inr ⟨word, tail, rfl, ?_, htail⟩
      simpa using hword
  · rintro (⟨rfl, hbefore, hrest⟩ | ⟨word, tail, rfl, hword, htail⟩)
    · exact ⟨[], rest, rfl, hbefore, hrest⟩
    · refine ⟨c :: word, tail, rfl, ?_, htail⟩
      simpa using hword

/-- More text changes the form of a sigma exactly if the sigma had the final form and the text
brings a letter. -/
theorem lowerSigma_append_eq_iff (before t more : Text) :
    lowerSigma before t = lowerSigma before (t ++ more) ↔
      ¬ ((meetsCased before = true ∧ ∀ c ∈ t, isCaseIgnorable c = true) ∧
        meetsCased more = true) := by
  unfold lowerSigma
  by_cases hall : ∀ c ∈ t, isCaseIgnorable c = true
  · rw [meetsCased_of_ignorable hall, meetsCased_append_of_ignorable hall]
    cases meetsCased before with
    | false => simp
    | true =>
      cases meetsCased more with
      | false => simp
      | true => simpa using hall
  · rw [meetsCased_append_of_not_ignorable hall]
    simp [hall]

/-- The lower case of a text starts the lower case of a longer one, unless the text ends in a sigma
of final form and a letter follows. -/
theorem lowerAfter_initial_iff (before t more : Text) :
    lowerAfter before t <+: lowerAfter before (t ++ more) ↔
      ¬ (EndsInSigma before t ∧ meetsCased more = true) := by
  induction t generalizing before with
  | nil => simp [lowerAfter, not_endsInSigma_nil]
  | cons c rest ih =>
    -- of a character's lower case, only the form of a sigma depends on what comes behind it
    rw [List.cons_append, lowerAfter, lowerAfter, endsInSigma_cons]
    by_cases hsigma : c = capitalSigma
    · rw [if_pos hsigma, if_pos hsigma, List.singleton_append, List.singleton_append,
        List.cons_prefix_cons, ih, lowerSigma_append_eq_iff]
      constructor
      · rintro ⟨hhere, hbehind⟩ ⟨⟨-, hends⟩ | hends, hmore⟩
        · exact hhere ⟨hends, hmore⟩
        · exact hbehind ⟨hends, hmore⟩
      · intro h
        constructor
        · rintro ⟨hends, hmore⟩
          exact h ⟨Or.inl ⟨hsigma, hends⟩, hmore⟩
        · rintro ⟨hends, hmore⟩
          exact h ⟨Or.inr hends, hmore⟩
    · rw [if_neg hsigma, if_neg hsigma, List.prefix_append_right_inj, ih]
      simp only [hsigma, false_and, false_or]

/-- The lower case of a text starts with the lower case of what the text starts with, unless that
ends in a sigma of final form and a letter comes behind it. -/
theorem lower_initial_iff (t more : Text) :
    lower t <+: lower (t ++ more) ↔ ¬ (EndsInSigma [] t ∧ meetsCased more = true) :=
  lowerAfter_initial_iff [] t more

/-! ## Slashes -/

/-- No character but the slash has a slash in its lower case. -/
theorem slash_mem_lowerChar {c : Char} (h : '/' ∈ lowerChar c) : c = '/' := by
  -- every run of letters has its images behind the slash
  have hruns : ∀ run ∈ lowerRuns, (47 : Int) < run.first + run.distance := by
    decide +kernel
  have himage : ∀ runs, (∀ run ∈ runs, (47 : Int) < run.first + run.distance) →
      ∀ n m, imageUnder? runs n = some m → 47 < m := by
    intro runs
    induction runs with
    | nil => simp [imageUnder?]
    | cons run more ih =>
      intro hall n m hn
      have hrun := hall run List.mem_cons_self
      unfold imageUnder? CaseRun.image? at hn
      split at hn
      · simp at hn
      · split at hn
        · next found hfound =>
          split at hfound
          · obtain rfl := Option.some.inj hn
            have himage := Option.some.inj hfound
            omega
          · simp at hfound
        · exact ih (fun other hother => hall other (List.mem_cons_of_mem _ hother)) n m hn
  unfold lowerChar at h
  split at h
  · simp at h
  · split at h
    · next n hn =>
      have hlarge := himage lowerRuns hruns _ _ hn
      have hcode : (Char.ofNat n).toNat = 47 := by
        rw [← List.mem_singleton.mp h]
        rfl
      by_cases hvalid : n.isValidChar
      · rw [Char.ofNat, dif_pos hvalid] at hcode
        exact absurd hcode (Nat.ne_of_gt hlarge)
      · rw [Char.ofNat, dif_neg hvalid] at hcode
        exact absurd hcode (by decide)
    · exact (List.mem_singleton.mp h).symm

/-- A slash in the lower case of a text was there before. -/
theorem slash_mem_lower {t : Text} (h : '/' ∈ lower t) : '/' ∈ t := by
  have hafter : ∀ t before : Text, '/' ∈ lowerAfter before t → '/' ∈ t := by
    intro t
    induction t with
    | nil => simp [lowerAfter]
    | cons c rest ih =>
      intro before hmem
      rw [lowerAfter] at hmem
      rcases List.mem_append.mp hmem with hmem | hmem
      · split at hmem
        · unfold lowerSigma at hmem
          split at hmem <;> exact absurd (List.mem_singleton.mp hmem) (by decide)
        · rw [slash_mem_lowerChar hmem]
          exact List.mem_cons_self
      · exact List.mem_cons_of_mem _ (ih _ hmem)
  exact hafter t [] h

/-- No letter is met across a slash. -/
theorem meetsCased_append_slash (t more : Text) :
    meetsCased (t ++ '/' :: more) = meetsCased t := by
  have hslash : isCaseIgnorable '/' = false ∧ isCased '/' = false := by decide +kernel
  by_cases hall : ∀ c ∈ t, isCaseIgnorable c = true
  · rw [meetsCased_append_of_ignorable hall, meetsCased_of_ignorable hall]
    simp [meetsCased, hslash.1, hslash.2]
  · rw [meetsCased_append_of_not_ignorable hall]

/-- What stands in front of a slash does not matter to the lower case of what stands behind it. -/
theorem lowerAfter_append_slash (front before t : Text) :
    lowerAfter (front ++ '/' :: before) t = lowerAfter front t := by
  induction t generalizing front with
  | nil => rfl
  | cons c rest ih =>
    rw [lowerAfter, lowerAfter, ← List.cons_append, ih]
    unfold lowerSigma
    rw [meetsCased_append_slash]

/-- What stands on either side of a slash is lowered by itself. -/
theorem lower_append_slash (t more : Text) :
    lower (t ++ '/' :: more) = lower t ++ '/' :: lower more := by
  have hslash : lowerChar '/' = ['/'] ∧ '/' ≠ capitalSigma := by decide +kernel
  have hafter : ∀ t before : Text,
      lowerAfter before (t ++ '/' :: more) = lowerAfter before t ++ '/' :: lower more := by
    intro t
    induction t with
    | nil =>
      intro before
      conv => lhs; rw [List.nil_append, lowerAfter]
      rw [if_neg hslash.2, hslash.1]
      have hmore := lowerAfter_append_slash [] before more
      rw [List.nil_append] at hmore
      rw [hmore]
      rfl
    | cons c rest ih =>
      intro before
      rw [List.cons_append, lowerAfter, ih, lowerAfter, List.append_assoc]
      unfold lowerSigma
      rw [meetsCased_append_slash]
  exact hafter t []

end ShaderCompose.Text
