import Mathlib.Data.List.Forall2
import ShaderCompose.Proofs.CompilerLog.References

/-!
# What a translated log looks like

A log is translated line by line.  A line that refers to a known file gets the location of the file
in place of its index, and every other line stays as it is (`Relabelled`).  The one thing that stops
a translation is an index of more digits than are read as a number, and the first line with such an
index decides how the translation fails.

Lines end at their breaks, so a log can be cut behind a break and translated in two halves, unless
the cut goes through a carriage return and its line feed.
-/

set_option autoImplicit false

namespace ShaderCompose.CompilerLog

/-! ## Lines with their breaks -/

/-- A break that no other one is joined with ends the line that it stands in, here an empty one. -/
theorem splitKeepingBreaks_of_break {c : Char} (hc : isBreak c = true) {t : Text}
    (hpair : ¬ (c = '\r' ∧ t.head? = some '\n')) :
    splitKeepingBreaks (c :: t) = [c] :: splitKeepingBreaks t := by
  rw [splitKeepingBreaks, if_pos hc]
  rintro rest rfl rfl
  exact hpair ⟨rfl, rfl⟩

/-- A character that is no break belongs to the first line of what follows it. -/
theorem splitKeepingBreaks_of_not_break {c : Char} (hc : isBreak c = false) (t : Text) :
    splitKeepingBreaks (c :: t) = match splitKeepingBreaks t with
      | [] => [[c]]
      | line :: more => (c :: line) :: more := by
  have hnext : ∀ rest, c = '\r' → t = '\n' :: rest → False := by
    rintro rest rfl -
    exact absurd hc (by decide)
  exact (splitKeepingBreaks.eq_3 c t hnext).trans (if_neg (by simp [hc]))

/-- The lines of a log, with their breaks, make up the log. -/
theorem flatten_splitKeepingBreaks (log : Text) : (splitKeepingBreaks log).flatten = log := by
  fun_induction splitKeepingBreaks log with
  | case1 => rfl
  | case2 rest ih => simp [ih]
  | case3 c rest _ hc ih => simp [ih]
  | case4 c rest _ hc hnil ih => simpa [hnil] using ih
  | case5 c rest _ hc line more hlines ih => simpa [hlines] using ih

/-- A text without breaks is one line. -/
theorem splitKeepingBreaks_of_unbroken {t : Text} (hne : t ≠ [])
    (h : ∀ c ∈ t, isBreak c = false) : splitKeepingBreaks t = [t] := by
  induction t with
  | nil => contradiction
  | cons c rest ih =>
    rw [splitKeepingBreaks_of_not_break (h c List.mem_cons_self)]
    cases rest with
    | nil => rfl
    | cons d more => rw [ih (by simp) fun e he => h e (List.mem_cons_of_mem _ he)]

/-- A log that is cut behind a break falls into the lines of its two halves. -/
theorem splitKeepingBreaks_append {a b : Text} (hbreak : ∃ c ∈ a.getLast?, isBreak c = true)
    (hpair : ¬ (a.getLast? = some '\r' ∧ b.head? = some '\n')) :
    splitKeepingBreaks (a ++ b) = splitKeepingBreaks a ++ splitKeepingBreaks b := by
  fun_induction splitKeepingBreaks a with
  | case1 => simp at hbreak
  | case2 rest ih =>
    have hstart : splitKeepingBreaks ('\r' :: '\n' :: rest ++ b) =
        ['\r', '\n'] :: splitKeepingBreaks (rest ++ b) := by
      rw [List.cons_append, List.cons_append, splitKeepingBreaks]
    rw [hstart]
    cases rest with
    | nil => rfl
    | cons d more =>
      rw [ih (by simpa using hbreak) (by simpa using hpair), List.cons_append]
  | case3 c rest hnext hc ih =>
    cases rest with
    | nil =>
      have hfirst : ¬ (c = '\r' ∧ b.head? = some '\n') := by simpa using hpair
      exact splitKeepingBreaks_of_break hc hfirst
    | cons d more =>
      have hfirst : ¬ (c = '\r' ∧ (d :: more ++ b).head? = some '\n') := by
        rintro ⟨hreturn, hfeed⟩
        exact hnext more hreturn (by rw [Option.some.inj hfeed])
      rw [List.cons_append, splitKeepingBreaks_of_break hc hfirst,
        ih (by simpa using hbreak) (by simpa using hpair), List.cons_append]
  | case4 c rest hnext hc hnil ih =>
    -- without a line behind it, the character is the last one and no break
    have hrest : rest = [] := by
      rw [← flatten_splitKeepingBreaks rest, hnil, List.flatten_nil]
    subst hrest
    simp [hc] at hbreak
  | case5 c rest hnext hc line more hlines ih =>
    have hne : rest ≠ [] := by
      rintro rfl
      simp [splitKeepingBreaks] at hlines
    rw [List.getLast?_cons_of_ne_nil hne] at hbreak hpair
    rw [List.cons_append, splitKeepingBreaks_of_not_break (by simpa using hc), ih hbreak hpair,
      hlines]
    rfl

/-! ## One line -/

/-- What becomes of a line, given the locations of the files by their indices: a file index that is
known gives way to the location, and a line without one stays as it is. -/
inductive Relabelled (locations : List Text) : Text → Text → Prop
  | known {ref : Reference} {location : Text} : ref.Fits →
      locations[Text.numberOf ref.digits]? = some location →
        Relabelled locations ref.line (ref.lead ++ (location ++ ref.rest))
  | other {line : Text} :
      (∀ ref : Reference, ref.Fits → ref.line = line →
        locations.length ≤ Text.numberOf ref.digits) →
        Relabelled locations line line

/-- The file index of a line, if there is one, has no more digits than are read as a number. -/
def Short (line : Text) : Prop :=
  ∀ ref : Reference, ref.Fits → ref.line = line → ref.digits.length ≤ digitLimit

/-- A line is short exactly if the reference that the scanner finds in it, if any, has few enough
digits, so this can be decided. -/
theorem short_iff {line : Text} :
    Short line ↔ ∀ ref ∈ reference? line, ref.digits.length ≤ digitLimit := by
  simp only [Option.mem_def, reference?_eq_some_iff, and_imp, Short]

instance (line : Text) : Decidable (Short line) := decidable_of_iff' _ short_iff

/-- A line with the location in place of a known file index, however long the index is. -/
def relabel (locations : List Text) (line : Text) : Text :=
  match reference? line with
  | none => line
  | some ref =>
    match locations[Text.numberOf ref.digits]? with
    | some location => ref.lead ++ (location ++ ref.rest)
    | none => line

section

variable {locations : List Text} {line out : Text}

/-- Giving locations for indices has one of the outcomes that are allowed for a line. -/
theorem relabelled_relabel (locations : List Text) (line : Text) :
    Relabelled locations line (relabel locations line) := by
  unfold relabel
  cases href : reference? line with
  | none =>
    apply Relabelled.other
    intro ref hfits hline
    rw [reference?_eq_some_iff.mpr ⟨hfits, hline⟩] at href
    simp at href
  | some ref =>
    obtain ⟨hfits, rfl⟩ := reference?_eq_some_iff.mp href
    dsimp only
    cases hlocation : locations[Text.numberOf ref.digits]? with
    | some location => exact .known hfits hlocation
    | none =>
      apply Relabelled.other
      intro found hfound hline
      rw [hfound.unique hfits hline]
      exact List.getElem?_eq_none_iff.mp hlocation

/-- There is one way to relabel a line. -/
theorem relabelled_iff : Relabelled locations line out ↔ out = relabel locations line := by
  constructor
  · intro h
    unfold relabel
    cases h with
    | known hfits hlocation =>
      rw [reference?_eq_some_iff.mpr ⟨hfits, rfl⟩]
      dsimp only
      rw [hlocation]
    | other hunknown =>
      cases href : reference? line with
      | none => rfl
      | some ref =>
        obtain ⟨hfits, hline⟩ := reference?_eq_some_iff.mp href
        dsimp only
        rw [List.getElem?_eq_none (hunknown ref hfits hline)]
  · rintro rfl
    exact relabelled_relabel locations line

/-- A line whose file index is not known stays as it is. -/
theorem relabel_of_unknown {ref : Reference} (hfits : ref.Fits)
    (hindex : locations.length ≤ Text.numberOf ref.digits) :
    relabel locations ref.line = ref.line := by
  unfold relabel
  rw [reference?_eq_some_iff.mpr ⟨hfits, rfl⟩]
  dsimp only
  rw [List.getElem?_eq_none hindex]

/-- The translation of a short line succeeds with the line relabelled. -/
theorem translateLine_of_short (locations : List Text) (h : Short line) :
    translateLine locations line = .ok (relabel locations line) := by
  unfold translateLine relabel
  cases href : reference? line with
  | none => rfl
  | some ref =>
    have hlimit : ¬ digitLimit < ref.digits.length := Nat.not_lt.mpr (short_iff.mp h ref href)
    dsimp only
    rw [if_neg hlimit]
    cases locations[Text.numberOf ref.digits]? with
    | none => rfl
    | some location => exact congrArg Except.ok (List.append_assoc ..)

/-- The translation of a line whose file index has too many digits fails, and the failure counts
them. -/
theorem translateLine_of_long (locations : List Text) {ref : Reference} (hfits : ref.Fits)
    (hlong : digitLimit < ref.digits.length) :
    translateLine locations ref.line = .error (.misuse (.tooManyDigits ref.digits.length)) := by
  unfold translateLine
  rw [reference?_eq_some_iff.mpr ⟨hfits, rfl⟩]
  dsimp only
  rw [if_pos hlong]

/-- A line that is not short has a reference with too many digits. -/
theorem exists_long_of_not_short (h : ¬ Short line) :
    ∃ ref : Reference, ref.Fits ∧ ref.line = line ∧ digitLimit < ref.digits.length := by
  simpa [Short] using h

end

/-! ## All lines -/

/-- Short lines are translated one by one, and what they come to is put together in order. -/
theorem translateLines_of_short (locations : List Text) {lines : List Text}
    (h : ∀ line ∈ lines, Short line) :
    translateLines locations lines = .ok (lines.flatMap (relabel locations)) := by
  induction lines with
  | nil => rfl
  | cons line rest ih =>
    have hrest := ih fun other hother => h other (List.mem_cons_of_mem _ hother)
    rw [translateLines, translateLine_of_short locations (h line List.mem_cons_self)]
    dsimp only
    rw [hrest]
    rfl

/-- The translation of lines in two groups is that of the first group, followed by that of the
second; a failure in the first leaves the second alone. -/
theorem translateLines_append (locations first second : List Text) :
    translateLines locations (first ++ second) = do
      let s ← translateLines locations first
      let t ← translateLines locations second
      return s ++ t := by
  induction first with
  | nil =>
    show translateLines locations second = (translateLines locations second).bind fun t => .ok t
    cases translateLines locations second with
    | error e => rfl
    | ok t => rfl
  | cons line rest ih =>
    rw [List.cons_append, translateLines, translateLines, ih]
    cases translateLine locations line with
    | error e => rfl
    | ok out =>
      cases translateLines locations rest with
      | error e => rfl
      | ok s =>
        cases translateLines locations second with
        | error e => rfl
        | ok t => exact congrArg Except.ok (List.append_assoc ..).symm

/-- The first line with an index of too many digits stops the translation. -/
theorem translateLines_of_long (locations before : List Text)
    (hbefore : ∀ line ∈ before, Short line) {ref : Reference} (hfits : ref.Fits)
    (hlong : digitLimit < ref.digits.length) (after : List Text) :
    translateLines locations (before ++ ref.line :: after) =
      .error (.misuse (.tooManyDigits ref.digits.length)) := by
  rw [translateLines_append, translateLines_of_short locations hbefore, translateLines,
    translateLine_of_long locations hfits hlong]
  rfl

/-- Among lines that are not all short there is a first one that is not. -/
theorem exists_first_long {lines : List Text} (h : ¬ ∀ line ∈ lines, Short line) :
    ∃ before after, ∃ ref : Reference, lines = before ++ ref.line :: after ∧
      (∀ line ∈ before, Short line) ∧ ref.Fits ∧ digitLimit < ref.digits.length := by
  induction lines with
  | nil => simp at h
  | cons line rest ih =>
    by_cases hline : Short line
    · have hrest : ¬ ∀ other ∈ rest, Short other := by simpa [hline] using h
      obtain ⟨before, after, ref, rfl, hbefore, hlong⟩ := ih hrest
      exact ⟨line :: before, after, ref, rfl, by simpa [hline] using hbefore, hlong⟩
    · obtain ⟨ref, hfits, rfl, hlong⟩ := exists_long_of_not_short hline
      exact ⟨[], rest, ref, rfl, by simp, hfits, hlong⟩

/-! ## Whole logs -/

/-- Let no file index at the start of a line have too many digits.  Then the translation of a log is
made up of its lines, each relabelled on its own: a known file index gives way to the location of
the file, and nothing else changes.  The two halves of a log that is cut behind a break are
translated on their own, unless the cut goes through a carriage return and its line feed. -/
theorem translate_relabels_lines (locations : List Text) :
    (∀ log, (∀ line ∈ splitKeepingBreaks log, Short line) →
      translate locations log = .ok ((splitKeepingBreaks log).flatMap (relabel locations))) ∧
    (∀ line out, Relabelled locations line out ↔ out = relabel locations line) ∧
    ∀ a b, (∃ c ∈ a.getLast?, isBreak c = true) →
      ¬ (a.getLast? = some '\r' ∧ b.head? = some '\n') →
        translate locations (a ++ b) = do
          let s ← translate locations a
          let t ← translate locations b
          return s ++ t := by
  refine ⟨fun log hshort => translateLines_of_short locations hshort,
    fun line out => relabelled_iff, ?_⟩
  intro a b hbreak hpair
  unfold translate
  rw [splitKeepingBreaks_append hbreak hpair, translateLines_append]

/-- A log with lines of all forms: known and unknown indices, digits of another script, and blanks,
words and breaks of several kinds. -/
def gullyLog : Text :=
  ("0(12) : x\r\n\tWARNING:\x1f\u30001:7: y\x1c ERROR: ٠١:3(5)\u2028" ++
    "5(1) : z\rnote 0(1)\n").toList

/-- The log with the locations of two files. -/
def gullyTranslation : Text :=
  ("a.glsl(12) : x\r\n\tWARNING:\x1f\u3000b.glsl:7: y\x1c ERROR: b.glsl:3(5)\u2028" ++
    "5(1) : z\rnote 0(1)\n").toList

/-- The lines of the log are short and are relabelled, on their own and behind another line. -/
theorem translate_relabels_lines_gully :
    (∀ line ∈ splitKeepingBreaks gullyLog, Short line) ∧
      translate ["a.glsl".toList, "b.glsl".toList] gullyLog = .ok gullyTranslation ∧
      translate ["a.glsl".toList, "b.glsl".toList] ("note\r".toList ++ gullyLog) =
        .ok ("note\r".toList ++ gullyTranslation) := by
  have hshort : ∀ line ∈ splitKeepingBreaks gullyLog, Short line := by decide +kernel
  obtain ⟨hlines, -, hhalves⟩ := translate_relabels_lines ["a.glsl".toList, "b.glsl".toList]
  have hgully : translate ["a.glsl".toList, "b.glsl".toList] gullyLog = .ok gullyTranslation := by
    rw [hlines gullyLog hshort]
    exact congrArg Except.ok (by decide +kernel)
  have hnote : translate ["a.glsl".toList, "b.glsl".toList] "note\r".toList =
      .ok "note\r".toList := by
    rw [hlines "note\r".toList (by decide +kernel)]
    exact congrArg Except.ok (by decide +kernel)
  refine ⟨hshort, hgully, ?_⟩
  rw [hhalves "note\r".toList gullyLog ⟨'\r', by decide +kernel⟩ (by decide +kernel), hnote, hgully]
  rfl

/-- A translation fails exactly if there is a file index of too many digits, and then for the first
such index.  Otherwise it succeeds, and a line that refers to an unknown file comes out as it is,
between what becomes of the lines before it and behind it. -/
theorem translate_fails_iff (locations : List Text) (log : Text) :
    (∀ e, translate locations log = .error e ↔
      ∃ before after, ∃ ref : Reference, splitKeepingBreaks log = before ++ ref.line :: after ∧
        (∀ line ∈ before, Short line) ∧ ref.Fits ∧ digitLimit < ref.digits.length ∧
        e = .misuse (.tooManyDigits ref.digits.length)) ∧
    ((∀ line ∈ splitKeepingBreaks log, Short line) →
      (∃ t, translate locations log = .ok t) ∧
      ∀ before after, ∀ ref : Reference, splitKeepingBreaks log = before ++ ref.line :: after →
        ref.Fits → locations.length ≤ Text.numberOf ref.digits →
          ∃ s t, translateLines locations before = .ok s ∧
            translateLines locations after = .ok t ∧
            translate locations log = .ok (s ++ (ref.line ++ t))) := by
  constructor
  · intro e
    constructor
    · intro herror
      have hlong : ¬ ∀ line ∈ splitKeepingBreaks log, Short line := by
        intro hshort
        rw [translate, translateLines_of_short locations hshort] at herror
        simp at herror
      obtain ⟨before, after, ref, hlines, hbefore, hfits, hlong⟩ := exists_first_long hlong
      rw [translate, hlines, translateLines_of_long locations before hbefore hfits hlong] at herror
      exact ⟨before, after, ref, hlines, hbefore, hfits, hlong, (Except.error.inj herror).symm⟩
    · rintro ⟨before, after, ref, hlines, hbefore, hfits, hlong, rfl⟩
      rw [translate, hlines]
      exact translateLines_of_long locations before hbefore hfits hlong after
  · intro hshort
    -- a line of an unknown file is relabelled to itself
    refine ⟨⟨_, translateLines_of_short locations hshort⟩, ?_⟩
    intro before after ref hlines hfits hindex
    rw [translate, hlines]
    rw [hlines] at hshort
    refine ⟨_, _, translateLines_of_short locations fun line hline => hshort line (by simp [hline]),
      translateLines_of_short locations fun line hline => hshort line (by simp [hline]), ?_⟩
    rw [translateLines_of_short locations hshort, List.flatMap_append, List.flatMap_cons,
      relabel_of_unknown hfits hindex]

/-- The log is translated, and the line with the unknown index stands in the translation as it
was. -/
theorem translate_fails_iff_gully :
    (∃ t, translate ["a.glsl".toList, "b.glsl".toList] gullyLog = .ok t) ∧
      ∃ s t, translate ["a.glsl".toList, "b.glsl".toList] gullyLog =
        .ok (s ++ ("5(1) : z\r".toList ++ t)) := by
  have hfits : Reference.Fits ⟨[], "5".toList, '(' :: ("1".toList ++ ')' :: " : z\r".toList)⟩ :=
    .parenthesized (by decide) (by decide +kernel) (by decide +kernel)
  obtain ⟨hsome, hunknown⟩ := (translate_fails_iff ["a.glsl".toList, "b.glsl".toList] gullyLog).2
    (by decide +kernel)
  obtain ⟨s, t, -, -, hlog⟩ := hunknown ((splitKeepingBreaks gullyLog).take 3)
    ((splitKeepingBreaks gullyLog).drop 4) _ (by decide +kernel) hfits (by decide +kernel)
  exact ⟨hsome, s, t, hlog⟩

/-- A reference with a file index of the given number of digits. -/
def onesReference (count : Nat) : Reference :=
  ⟨[], List.replicate count '1', '(' :: ("1".toList ++ ')' :: " : error".toList)⟩

/-- A line whose file index is a number of ones beyond the limit is never translated, whatever the
files are. -/
theorem translate_onesReference (locations : List Text) {count : Nat} (h : digitLimit < count) :
    translate locations (onesReference count).line = .error (.misuse (.tooManyDigits count)) := by
  have hones : ∀ c ∈ List.replicate count '1', c = '1' := fun c hc => List.eq_of_mem_replicate hc
  have hdigits : Text.Numeral (List.replicate count '1') := by
    refine ⟨by simp; omega, ?_⟩
    intro c hc
    rw [hones c hc]
    decide
  have hfits : (onesReference count).Fits := .parenthesized (by decide) hdigits (by decide +kernel)
  have hunbroken : ∀ c ∈ (onesReference count).line, isBreak c = false := by
    have hend : ("(1) : error".toList.any isBreak) = false := by decide +kernel
    intro c hc
    have hmem : c ∈ List.replicate count '1' ++ "(1) : error".toList := hc
    rcases List.mem_append.mp hmem with hmem | hmem
    · rw [hones c hmem]
      decide
    · simpa using List.any_eq_false.mp hend c hmem
  have hlines : splitKeepingBreaks (onesReference count).line = [(onesReference count).line] :=
    splitKeepingBreaks_of_unbroken (by simp [Reference.line, onesReference]) hunbroken
  have hlength : (onesReference count).digits.length = count := List.length_replicate
  have hfailed := translateLines_of_long locations [] (by simp) hfits
    (by rw [hlength]; exact h) []
  rw [hlength] at hfailed
  rw [translate, hlines]
  exact hfailed

/-- Not every log can be translated: an index of 4301 digits is one digit too long. -/
theorem not_forall_translates :
    ¬ ∀ (locations : List Text) (log : Text), ∃ t, translate locations log = .ok t := by
  intro hall
  obtain ⟨t, ht⟩ := hall ["a.glsl".toList] (onesReference 4301).line
  rw [translate_onesReference _ (by decide)] at ht
  simp at ht

end ShaderCompose.CompilerLog
