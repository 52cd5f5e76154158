import Mathlib.Data.List.TakeWhile
import ShaderCompose.Proofs.Effect.Parsing
import ShaderCompose.Proofs.Text.Breaks

/-!
# Written effects are read back

An effect is written line by line: first the lines that belong to no section, then for each section
a separator with its key and the lines of its body.  There may be blanks around a key, and lines may
be ended in any of the three ways.  What is written is read back: the keys in their order, and the
lines of each section with the numbers that they have in what was written.
-/

set_option autoImplicit false

namespace ShaderCompose

/-! ## Blanks around a key -/

namespace Text

/-- Blanks in front of a text do not change what it is when stripped at the start. -/
theorem stripStart_append {before : Text} (h : ∀ c ∈ before, isBlank c = true) (t : Text) :
    stripStart (before ++ t) = stripStart t := by
  have hall : before.dropWhile isBlank = [] := List.dropWhile_eq_nil_iff.mpr h
  unfold stripStart
  rw [List.dropWhile_append, hall]
  rfl

/-- Blanks behind a text do not change what it is when stripped at the end. -/
theorem stripEnd_append {after : Text} (h : ∀ c ∈ after, isBlank c = true) (t : Text) :
    stripEnd (t ++ after) = stripEnd t := by
  have hreverse : ∀ c ∈ after.reverse, isBlank c = true :=
    fun c hc => h c (List.mem_reverse.mp hc)
  unfold stripEnd dropEndWhile
  rw [List.reverse_append]
  exact congrArg List.reverse (stripStart_append hreverse t.reverse)

/-- A text without blanks around it has none at its start. -/
theorem stripStart_of_strip {t : Text} (h : strip t = t) : stripStart t = t := by
  have hsuffix : stripStart t <:+ t := List.dropWhile_suffix _
  have hinitial : strip t <+: stripStart t := by
    unfold strip stripEnd dropEndWhile
    rw [← List.reverse_suffix, List.reverse_reverse]
    exact List.dropWhile_suffix _
  have hlength := hinitial.length_le
  rw [h] at hlength
  exact hsuffix.eq_of_length_le hlength

/-- Blanks around a text that has none of its own are stripped. -/
theorem strip_padded {before key after : Text} (hkey : strip key = key)
    (hbefore : ∀ c ∈ before, isBlank c = true) (hafter : ∀ c ∈ after, isBlank c = true) :
    strip (before ++ key ++ after) = key := by
  have hstart := stripStart_of_strip hkey
  have hend : stripEnd key = key := by
    unfold strip at hkey
    rwa [hstart] at hkey
  have hstripped : stripStart (key ++ after) = key ++ after ∨ key = [] := by
    by_cases hempty : key = []
    · exact Or.inr hempty
    · refine Or.inl ?_
      unfold stripStart at hstart ⊢
      rw [List.dropWhile_append, hstart]
      simp [hempty]
  unfold strip
  rw [List.append_assoc, stripStart_append hbefore]
  rcases hstripped with hstripped | rfl
  · rw [hstripped, stripEnd_append hafter, hend]
  · have hblank : stripStart after = [] := List.dropWhile_eq_nil_iff.mpr hafter
    rw [List.nil_append, hblank]
    rfl

end Text

/-! ## Drafts -/

/-- A section that is to be written: its key without blanks around it, the blanks that are to be
written around the key, and the lines of its body, none of which is a separator. -/
structure SectionDraft where
  key : Text
  before : Text
  after : Text
  body : List Text
  stripped : Text.strip key = key := by decide
  unbroken_key : Text.Unbroken key := by decide
  blank_before : before.all Text.isBlank = true := by decide
  unbroken_before : Text.Unbroken before := by decide
  blank_after : after.all Text.isBlank = true := by decide
  unbroken_after : Text.Unbroken after := by decide
  unbroken_body : ∀ line ∈ body, Text.Unbroken line := by decide
  plain_body : ∀ line ∈ body, Text.startsWith line ['-', '-'] = false := by decide

/-- An effect that is to be written: the lines in front of the first separator, and the sections,
whose keys differ. -/
structure EffectDraft where
  preamble : List Text
  sections : List SectionDraft
  unbroken_preamble : ∀ line ∈ preamble, Text.Unbroken line := by decide
  plain_preamble : ∀ line ∈ preamble, Text.startsWith line ['-', '-'] = false := by decide
  distinct : (sections.map SectionDraft.key).Nodup := by decide

namespace SectionDraft

/-- The line that starts a section. -/
def separator (s : SectionDraft) : Text := ['-', '-'] ++ (s.before ++ s.key ++ s.after)

/-- The lines of a section, the separator first. -/
def lines (s : SectionDraft) : List Text := s.separator :: s.body

/-- The blocks of sections that are written behind the given number of lines. -/
def blocks (above : Nat) : List SectionDraft → List Block
  | [] => []
  | s :: more => ⟨s.key, above + 1, s.body⟩ :: blocks (above + s.lines.length) more

/-- The separator that is written for a section names its key, whatever blanks are written around
it. -/
theorem sectionKey?_separator (s : SectionDraft) : sectionKey? s.separator = some s.key := by
  have hkey : Text.strip (s.before ++ s.key ++ s.after) = s.key :=
    Text.strip_padded s.stripped (List.all_eq_true.mp s.blank_before)
      (List.all_eq_true.mp s.blank_after)
  exact sectionKey?_eq_some_iff.mpr ⟨_, rfl, hkey⟩

/-- The lines that are written for a section have no breaks in them. -/
theorem unbroken_lines (s : SectionDraft) : ∀ line ∈ s.lines, Text.Unbroken line := by
  intro line hline
  rcases List.mem_cons.mp hline with rfl | hline
  · obtain ⟨hbefore, hbefore'⟩ := s.unbroken_before
    obtain ⟨hkey, hkey'⟩ := s.unbroken_key
    obtain ⟨hafter, hafter'⟩ := s.unbroken_after
    constructor
    · simp [separator, hbefore, hkey, hafter]
    · simp [separator, hbefore', hkey', hafter']
  · exact s.unbroken_body line hline

/-- Written sections are cut into their blocks. -/
theorem cutBlocks_lines (above : Nat) (sections : List SectionDraft) :
    cutBlocks (Text.numberLines (above + 1) (sections.flatMap lines)) =
      ([], blocks above sections) := by
  induction sections generalizing above with
  | nil => rfl
  | cons s more ih =>
    have hmore := ih (above + s.lines.length)
    have habove : above + s.lines.length + 1 = above + 1 + 1 + s.body.length := by
      show above + (s.body.length + 1) + 1 = _
      omega
    rw [habove] at hmore
    have hplain : ∀ line ∈ s.body, isPlain line = true :=
      fun line hline => isPlain_of_startsWith (s.plain_body line hline)
    have hbody := cutBlocks_plain_append hplain (above + 1 + 1) (more.flatMap lines)
    rw [hmore, List.append_nil] at hbody
    have hlines : (s :: more).flatMap lines = s.separator :: (s.body ++ more.flatMap lines) := rfl
    simp only [hlines, Text.numberLines, cutBlocks, hbody, sectionKey?_separator, blocks]

/-- The blocks of the sections that are written have their keys, in their order. -/
theorem map_key_blocks (above : Nat) (sections : List SectionDraft) :
    (blocks above sections).map Block.key = sections.map key := by
  induction sections generalizing above with
  | nil => rfl
  | cons s more ih => simp [blocks, ih]

/-- Sections in two groups have the blocks of the first group and then those of the second, which
stand lower by the lines of the first. -/
theorem blocks_append (above : Nat) (earlier later : List SectionDraft) :
    blocks above (earlier ++ later) =
      blocks above earlier ++ blocks (above + (earlier.flatMap lines).length) later := by
  induction earlier generalizing above with
  | nil => rfl
  | cons s more ih => simp [blocks, ih, Nat.add_assoc]

end SectionDraft

namespace EffectDraft

/-- The lines of an effect that is to be written. -/
def lines (draft : EffectDraft) : List Text :=
  draft.preamble ++ draft.sections.flatMap SectionDraft.lines

/-- An effect written with the given end behind every line. -/
def write (draft : EffectDraft) (ending : Text.Ending) : Text :=
  Text.writeLines ending draft.lines

/-- The lines that are written for an effect have no breaks in them. -/
theorem unbroken_lines (draft : EffectDraft) : ∀ line ∈ draft.lines, Text.Unbroken line := by
  intro line hline
  rcases List.mem_append.mp hline with hline | hline
  · exact draft.unbroken_preamble line hline
  · obtain ⟨s, -, hline⟩ := List.mem_flatMap.mp hline
    exact s.unbroken_lines line hline

/-- What is written is cut into the blocks of its sections again, whichever way the lines are
ended. -/
theorem blocksOf_write (draft : EffectDraft) (ending : Text.Ending) :
    blocksOf (draft.write ending) = SectionDraft.blocks draft.preamble.length draft.sections := by
  have hplain : ∀ line ∈ draft.preamble, isPlain line = true :=
    fun line hline => isPlain_of_startsWith (draft.plain_preamble line hline)
  unfold blocksOf write
  rw [Text.splitLines_writeLines ending draft.unbroken_lines]
  unfold lines
  rw [cutBlocks_plain_append hplain, Nat.add_comm 1, SectionDraft.cutBlocks_lines]

/-- What is written is parsed to the sections that it was written for, and gives no warnings. -/
theorem parse_write (draft : EffectDraft) (ending : Text.Ending) (identity : Text)
    (origin : Option SourceFile) :
    Effect.parse (draft.write ending) identity origin =
      ⟨identity, origin,
        (SectionDraft.blocks draft.preamble.length draft.sections).map (Block.toSection identity),
        []⟩ := by
  show Effect.ofBlocks identity origin (blocksOf (draft.write ending)) = _
  rw [blocksOf_write]
  apply Effect.ofBlocks_of_nodup
  rw [SectionDraft.map_key_blocks]
  exact draft.distinct

/-- The round trip.  However its lines are ended, a written effect is read back with its keys in
their order and without warnings, and the lines of a section are its body: the first of them has the
number behind that of the separator, which comes behind all the lines written before. -/
theorem parse_reads_written (draft : EffectDraft) (ending : Text.Ending) (identity : Text)
    (origin : Option SourceFile) :
    (Effect.parse (draft.write ending) identity origin).sections.map Section.key =
      draft.sections.map SectionDraft.key ∧
    (∀ earlier s later, draft.sections = earlier ++ s :: later →
      ∃ found,
        (Effect.parse (draft.write ending) identity origin).sections[earlier.length]? =
          some found ∧
        found.key = s.key ∧
        found.lines = Text.numberLines
          ((draft.preamble ++ earlier.flatMap SectionDraft.lines).length + 2) s.body) ∧
    (Effect.parse (draft.write ending) identity origin).warnings = [] := by
  rw [parse_write]
  refine ⟨?_, ?_, rfl⟩
  · rw [← SectionDraft.map_key_blocks draft.preamble.length, List.map_map]
    rfl
  · intro earlier s later hsplit
    have hlength : (SectionDraft.blocks draft.preamble.length earlier).length = earlier.length := by
      rw [← List.length_map Block.key, SectionDraft.map_key_blocks, List.length_map]
    rw [hsplit, SectionDraft.blocks_append]
    refine ⟨Block.toSection identity ⟨s.key, draft.preamble.length +
      (earlier.flatMap SectionDraft.lines).length + 1, s.body⟩, ?_, rfl, ?_⟩
    · simp [SectionDraft.blocks, ← hlength]
    · show Text.numberLines _ (Text.splitLines (Text.joinLines s.body)) = _
      rw [Text.splitLines_joinLines s.unbroken_body, List.length_append]
      rfl

/-- A draft with an empty key, a key that starts with a dash, an empty body, and lines with a form
feed and a line separator in them, neither of which is a break. -/
def reedDraft : EffectDraft where
  preamble := ["".toList, "- lead".toList]
  sections :=
    [{ key := [], before := " \t".toList, after := "\u3000".toList, body := [] },
     { key := "-stem-".toList, before := [], after := [' ']
       body := ["one\x0ctwo".toList, "a\u2028b".toList, [], ['-'], []] },
     { key := "leaf edge".toList, before := ['\x0c'], after := [], body := [[], " --".toList] }]

/-- A draft with blanks, an empty key and lines that look like separators is read back from lines
that end in carriage returns. -/
theorem parse_reads_written_reed :
    reedDraft.write .carriageReturn =
      ("\r- lead\r-- \t\u3000\r---stem- \rone\x0ctwo\ra\u2028b\r\r-\r\r" ++
        "--\x0cleaf edge\r\r --\r").toList ∧
    (Effect.parse (reedDraft.write .carriageReturn) "reed".toList none).sections.map Section.key =
      [[], "-stem-".toList, "leaf edge".toList] ∧
    (∃ found,
      (Effect.parse (reedDraft.write .carriageReturn) "reed".toList none).sections[2]? =
        some found ∧ found.key = "leaf edge".toList ∧
      found.lines = [(11, []), (12, " --".toList)]) ∧
    (Effect.parse (reedDraft.write .carriageReturn) "reed".toList none).warnings = [] := by
  obtain ⟨hkeys, hlines, hwarnings⟩ :=
    parse_reads_written reedDraft .carriageReturn "reed".toList none
  refine ⟨by decide +kernel, hkeys, ?_, hwarnings⟩
  exact hlines (reedDraft.sections.take 2) _ [] rfl

end EffectDraft

end ShaderCompose
