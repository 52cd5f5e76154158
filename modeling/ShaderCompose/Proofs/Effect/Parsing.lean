import ShaderCompose.Proofs.Effect.Separators

/-!
# What parsing makes of the separators

The sections of a parsed effect are listed by the first separator with their key, and each is the
one that the last separator with its key starts.  Every separator either brings a new key, and so
one more section, or repeats a key, and so gives one more warning, which names it and the nearest
separator before it that has the same key.  The lines of a section are a slice of the text: they
begin behind its separator and end at the next one.
-/

set_option autoImplicit false

namespace ShaderCompose

/-! ## Storing sections -/

section

variable {sections : List Section} {s : Section}

/-- The test for a key among the sections is membership in the list of their keys. -/
theorem any_key_iff {key : Text} :
    sections.any (·.key == key) = true ↔ key ∈ sections.map Section.key := by
  rw [List.any_eq_true, List.mem_map]
  simp only [beq_iff_eq]

/-- A section with a new key goes to the end. -/
theorem storeSection_of_notMem (h : s.key ∉ sections.map Section.key) :
    storeSection sections s = sections ++ [s] := by
  unfold storeSection
  rw [if_neg (by rwa [any_key_iff])]

/-- A section with a known key takes the place of the section that had it. -/
theorem storeSection_of_mem (h : s.key ∈ sections.map Section.key) :
    storeSection sections s = sections.map fun t => if t.key == s.key then s else t := by
  unfold storeSection
  rw [if_pos (any_key_iff.mpr h)]

/-- A section that takes the place of another one keeps the keys and their order. -/
theorem map_key_storeSection_of_mem (h : s.key ∈ sections.map Section.key) :
    (storeSection sections s).map Section.key = sections.map Section.key := by
  rw [storeSection_of_mem h, List.map_map]
  apply List.map_congr_left
  intro t _
  by_cases hkey : t.key = s.key
  · simp [hkey]
  · simp [hkey]

/-- What was stored last is found under its key. -/
theorem find?_storeSection_self :
    (storeSection sections s).find? (·.key == s.key) = some s := by
  by_cases hmem : s.key ∈ sections.map Section.key
  · rw [storeSection_of_mem hmem]
    induction sections with
    | nil => simp at hmem
    | cons t rest ih =>
      by_cases ht : t.key = s.key
      · simp [ht]
      · have hrest : s.key ∈ rest.map Section.key := by simpa [Ne.symm ht] using hmem
        simpa [ht] using ih hrest
  · have hnone : sections.find? (·.key == s.key) = none := by
      rw [List.find?_eq_none]
      intro t ht hkey
      exact hmem (List.mem_map.mpr ⟨t, ht, beq_iff_eq.mp hkey⟩)
    rw [storeSection_of_notMem hmem, List.find?_append, hnone]
    simp

/-- Storing a section changes nothing under other keys. -/
theorem find?_storeSection_of_ne {key : Text} (hne : key ≠ s.key) :
    (storeSection sections s).find? (·.key == key) = sections.find? (·.key == key) := by
  have hother : (s.key == key) = false := by simpa using Ne.symm hne
  by_cases hmem : s.key ∈ sections.map Section.key
  · rw [storeSection_of_mem hmem]
    clear hmem
    induction sections with
    | nil => rfl
    | cons t rest ih =>
      rw [List.map_cons, List.find?_cons, List.find?_cons, ih]
      by_cases ht : t.key = s.key
      · simp [ht, hother]
      · simp [ht]
  · rw [storeSection_of_notMem hmem, List.find?_append]
    simp [hother]

end

/-! ## Adding blocks -/

namespace Effect

/-- After a block is added, its key stands for its section and every other key for what it stood for
before. -/
theorem get?_addBlock (effect : Effect) (block : Block) (key : Text) :
    (effect.addBlock block).get? key =
      if key = block.key then some (block.toSection effect.identity) else effect.get? key := by
  show (storeSection effect.sections (block.toSection effect.identity)).find? (·.key == key) = _
  by_cases hkey : key = block.key
  · rw [if_pos hkey, hkey]
    exact find?_storeSection_self (s := block.toSection effect.identity)
  · rw [if_neg hkey]
    exact find?_storeSection_of_ne hkey

/-- The effect that some blocks make. -/
def ofBlocks (identity : Text) (origin : Option SourceFile) (blocks : List Block) : Effect :=
  blocks.foldl addBlock ⟨identity, origin, [], []⟩

section

variable (identity : Text) (origin : Option SourceFile) (blocks : List Block)

/-- Blocks are added in order, so the last block is added to the effect of those in front of it. -/
theorem ofBlocks_snoc (block : Block) :
    ofBlocks identity origin (blocks ++ [block]) =
      (ofBlocks identity origin blocks).addBlock block := by
  unfold ofBlocks
  rw [List.foldl_append]
  rfl

/-- Adding blocks does not change whose effect it is. -/
theorem identity_ofBlocks : (ofBlocks identity origin blocks).identity = identity :=
  identity_foldl_addBlock _ _

/-- The section with a key is made by the last block with that key. -/
theorem get?_ofBlocks (key : Text) :
    (ofBlocks identity origin blocks).get? key =
      (blocks.findRev? (·.key == key)).map (Block.toSection identity) := by
  induction blocks using List.reverseRecOn with
  | nil => rfl
  | append_singleton blocks block ih =>
    rw [ofBlocks_snoc, get?_addBlock, identity_ofBlocks, ih, List.findRev?_eq_find?_reverse,
      List.findRev?_eq_find?_reverse, List.reverse_append, List.reverse_singleton,
      List.singleton_append, List.find?_cons]
    by_cases hkey : key = block.key
    · simp [hkey]
    · have hother : (block.key == key) = false := by simpa using Ne.symm hkey
      simp [hkey, hother]

/-- A key is found in an effect exactly if it is the key of one of the sections. -/
theorem isSome_get?_iff {effect : Effect} {key : Text} :
    (effect.get? key).isSome = true ↔ key ∈ effect.sections.map Section.key := by
  unfold get?
  rw [List.find?_isSome, List.mem_map]
  simp only [beq_iff_eq]

/-- Keys are listed in the order in which they come up first. -/
theorem map_key_ofBlocks :
    (ofBlocks identity origin blocks).sections.map Section.key =
      (blocks.map Block.key).eraseDups := by
  induction blocks using List.reverseRecOn with
  | nil => rfl
  | append_singleton blocks block ih =>
    rw [ofBlocks_snoc, List.map_append, List.map_singleton]
    show (storeSection _ (block.toSection _)).map Section.key = _
    by_cases hmem : block.key ∈ blocks.map Block.key
    · have hstored : block.key ∈ (ofBlocks identity origin blocks).sections.map Section.key := by
        rwa [ih, List.mem_eraseDups]
      rw [map_key_storeSection_of_mem hstored, ih, eraseDups_snoc_of_mem hmem]
    · have hnew : block.key ∉ (ofBlocks identity origin blocks).sections.map Section.key := by
        rwa [ih, List.mem_eraseDups]
      rw [storeSection_of_notMem hnew, List.map_append, ih, eraseDups_snoc_of_notMem hmem]
      rfl

end

/-! ## Warnings -/

/-- A block with a known key adds one warning, with the line of the separator that had the key
before and the line of the new one; any other block adds none. -/
theorem warnings_addBlock (effect : Effect) (block : Block) :
    (effect.addBlock block).warnings = effect.warnings ++
      ((effect.get? block.key).map fun earlier => Warning.duplicateSection effect.identity block.key
        ((earlier.firstLine : Int) - 1) block.line).toList := by
  unfold addBlock
  cases effect.get? block.key with
  | none => rfl
  | some earlier => rfl

/-- A block makes one more section or one more warning. -/
theorem length_addBlock (effect : Effect) (block : Block) :
    (effect.addBlock block).sections.length + (effect.addBlock block).warnings.length =
      effect.sections.length + effect.warnings.length + 1 := by
  have hsections : (effect.addBlock block).sections =
      storeSection effect.sections (block.toSection effect.identity) := rfl
  rw [warnings_addBlock, List.length_append, hsections]
  cases hget : effect.get? block.key with
  | none =>
    have hnew : block.key ∉ effect.sections.map Section.key := by
      rw [← isSome_get?_iff, hget]
      simp
    rw [storeSection_of_notMem hnew, List.length_append]
    simp only [List.length_singleton, Option.map_none, Option.toList_none, List.length_nil]
    omega
  | some earlier =>
    have hmem : block.key ∈ effect.sections.map Section.key := by
      rw [← isSome_get?_iff, hget]
      rfl
    rw [storeSection_of_mem hmem, List.length_map]
    simp only [Option.map_some, Option.toList_some, List.length_singleton]
    omega

/-- Each block gives a section or a warning. -/
theorem length_ofBlocks (identity : Text) (origin : Option SourceFile) (blocks : List Block) :
    (ofBlocks identity origin blocks).sections.length +
      (ofBlocks identity origin blocks).warnings.length = blocks.length := by
  induction blocks using List.reverseRecOn with
  | nil => rfl
  | append_singleton blocks block ih =>
    rw [ofBlocks_snoc, length_addBlock, ih, List.length_append, List.length_singleton]

/-- Blocks whose keys differ make one section each, and no warnings. -/
theorem ofBlocks_of_nodup (identity : Text) (origin : Option SourceFile) {blocks : List Block}
    (h : (blocks.map Block.key).Nodup) :
    ofBlocks identity origin blocks =
      ⟨identity, origin, blocks.map (Block.toSection identity), []⟩ := by
  induction blocks using List.reverseRecOn with
  | nil => rfl
  | append_singleton blocks block ih =>
    rw [List.map_append, List.map_singleton, List.nodup_append_comm, List.singleton_append,
      List.nodup_cons] at h
    obtain ⟨hnew, hrest⟩ := h
    have hkeys : (blocks.map (Block.toSection identity)).map Section.key =
        blocks.map Block.key := by
      rw [List.map_map]
      rfl
    have hget : (⟨identity, origin, blocks.map (Block.toSection identity), []⟩ : Effect).get?
        block.key = none := by
      rw [← Option.not_isSome_iff_eq_none, isSome_get?_iff, hkeys]
      exact hnew
    rw [ofBlocks_snoc, ih hrest]
    unfold addBlock
    rw [hget]
    have hstore : storeSection (blocks.map (Block.toSection identity)) (block.toSection identity) =
        (blocks ++ [block]).map (Block.toSection identity) := by
      rw [storeSection_of_notMem (by rw [hkeys]; exact hnew), List.map_append, List.map_singleton]
    simp only [hstore, List.append_nil]

end Effect

/-- The warnings that separators give, in order: one for each whose key stands at an earlier one,
with its number and that of the nearest of these. -/
def overridesOf (identity : Text) (separators : List (Nat × Text)) : List Warning :=
  (List.range separators.length).filterMap fun j =>
    separators[j]?.bind fun later =>
      ((separators.take j).findRev? fun earlier => earlier.2 == later.2).map fun earlier =>
        .duplicateSection identity later.2 earlier.1 later.1

/-- One more separator adds one warning if its key stands at an earlier separator, with the nearest
one named, and else none. -/
theorem overridesOf_snoc (identity : Text) (separators : List (Nat × Text)) (last : Nat × Text) :
    overridesOf identity (separators ++ [last]) = overridesOf identity separators ++
      ((separators.findRev? fun earlier => earlier.2 == last.2).map fun earlier =>
        Warning.duplicateSection identity last.2 earlier.1 last.1).toList := by
  unfold overridesOf
  rw [List.length_append, List.length_singleton, List.range_succ, List.filterMap_append]
  congr 1
  · -- the earlier separators do not see the last one
    apply List.filterMap_congr
    intro j hj
    have hlt : j < separators.length := List.mem_range.mp hj
    rw [List.getElem?_append_left hlt, List.take_append_of_le_length (by omega)]
  · rw [List.filterMap_cons, List.filterMap_nil, List.getElem?_concat_length, List.take_left,
      Option.bind_some]
    cases separators.findRev? fun earlier => earlier.2 == last.2 with
    | none => rfl
    | some earlier => rfl

/-- The warnings of blocks are those of their separators. -/
theorem Effect.warnings_ofBlocks (identity : Text) (origin : Option SourceFile)
    (blocks : List Block) :
    (ofBlocks identity origin blocks).warnings =
      overridesOf identity (blocks.map fun block => (block.line, block.key)) := by
  induction blocks using List.reverseRecOn with
  | nil => rfl
  | append_singleton blocks block ih =>
    rw [ofBlocks_snoc, warnings_addBlock, ih, List.map_append, List.map_singleton,
      overridesOf_snoc, get?_ofBlocks, identity_ofBlocks]
    congr 2
    rw [List.findRev?_eq_find?_reverse, List.findRev?_eq_find?_reverse, ← List.map_reverse,
      List.find?_map, Option.map_map, Option.map_map]
    congr 1
    funext earlier
    simp [Block.toSection]

/-! ## Parsed texts -/

section

variable {text identity : Text} {origin : Option SourceFile}

/-- A text is parsed by adding the block of each of its separators. -/
theorem parse_eq_ofBlocks : Effect.parse text identity origin =
    Effect.ofBlocks identity origin ((separatorsOf text).map (blockAt text)) := by
  rw [← blocksOf_eq]
  rfl

/-- The keys of a parsed effect are those of the separators, each at its first place. -/
theorem map_key_parse : (Effect.parse text identity origin).sections.map Section.key =
    ((separatorsOf text).map Prod.snd).eraseDups := by
  rw [parse_eq_ofBlocks, Effect.map_key_ofBlocks, List.map_map]
  rfl

/-- The sections of a parsed effect are all different, since their keys are. -/
theorem nodup_sections_parse : (Effect.parse text identity origin).sections.Nodup := by
  apply List.Nodup.of_map Section.key
  rw [map_key_parse]
  exact nodup_eraseDups _

/-- The last separator with a key decides what its section is. -/
theorem get?_parse {earlier later : List (Nat × Text)} {number : Nat} {key : Text}
    (h : separatorsOf text = earlier ++ (number, key) :: later)
    (hlast : key ∉ later.map Prod.snd) :
    (Effect.parse text identity origin).get? key =
      some ((blockAt text (number, key)).toSection identity) := by
  have hlater :
      ((later.map (blockAt text)).reverse.find? fun block => block.key == key) = none := by
    rw [List.find?_eq_none]
    intro block hblock hkey
    obtain ⟨separator, hseparator, rfl⟩ := List.mem_map.mp (List.mem_reverse.mp hblock)
    exact hlast (List.mem_map.mpr ⟨separator, hseparator, beq_iff_eq.mp hkey⟩)
  rw [parse_eq_ofBlocks, Effect.get?_ofBlocks, h, List.findRev?_eq_find?_reverse, List.map_append,
    List.map_cons, List.reverse_append, List.reverse_cons, List.append_assoc, List.find?_append,
    hlater, Option.none_or, List.singleton_append, List.find?_cons]
  simp [blockAt]

/-- Every section is started by a separator. -/
theorem exists_separator {s : Section} (h : s ∈ (Effect.parse text identity origin).sections) :
    ∃ number key, (number, key) ∈ separatorsOf text ∧
      s = (blockAt text (number, key)).toSection identity := by
  obtain ⟨block, hblock, rfl⟩ := Effect.mem_sections_parse h
  rw [blocksOf_eq] at hblock
  obtain ⟨⟨number, key⟩, hseparator, rfl⟩ := List.mem_map.mp hblock
  exact ⟨number, key, hseparator, rfl⟩

/-! ## The lines of a section -/

/-- The lines of a section are those behind its separator, counted on from it. -/
theorem lines_blockAt (number : Nat) (key : Text) :
    ((blockAt text (number, key)).toSection identity).lines =
      Text.numberLines (number + 1) (linesAfter text number) := by
  show Text.numberLines _ (Text.splitLines (Text.joinLines (linesAfter text number))) = _
  rw [Text.splitLines_joinLines fun line hline => unbroken_of_mem_linesAfter hline]
  rfl

/-- The lines of the section behind a separator are those that are reached from there without
another separator on the way. -/
theorem mem_lines_blockAt {number n : Nat} {key line : Text} :
    (n, line) ∈ ((blockAt text (number, key)).toSection identity).lines ↔
      number < n ∧ text.lineAt? n = some line ∧
        ∀ between other, number < between → between ≤ n →
          (between, other) ∉ separatorsOf text := by
  rw [lines_blockAt, Text.mem_numberLines]
  constructor
  · rintro ⟨i, rfl, hi⟩
    obtain ⟨hline, hnone⟩ := getElem?_linesAfter.mp hi
    exact ⟨by omega, hline, hnone⟩
  · rintro ⟨hlt, hline, hnone⟩
    have hn : number + 1 + (n - number - 1) = n := by omega
    refine ⟨n - number - 1, hn.symm, getElem?_linesAfter.mpr ?_⟩
    rw [hn]
    exact ⟨hline, hnone⟩

/-- Sections behind different separators have no line in common. -/
theorem separator_unique {number number' n : Nat} {key key' line : Text}
    (h : (number, key) ∈ separatorsOf text) (h' : (number', key') ∈ separatorsOf text)
    (hline : (n, line) ∈ ((blockAt text (number, key)).toSection identity).lines)
    (hline' : (n, line) ∈ ((blockAt text (number', key')).toSection identity).lines) :
    (number', key') = (number, key) := by
  obtain ⟨hlt, -, hnone⟩ := mem_lines_blockAt.mp hline
  obtain ⟨hlt', -, hnone'⟩ := mem_lines_blockAt.mp hline'
  have hnumber : number' = number := by
    rcases Nat.lt_trichotomy number' number with hbefore | hsame | hbehind
    · exact absurd h (hnone' number key hbefore (by omega))
    · exact hsame
    · exact absurd h' (hnone number' key' hbehind (by omega))
  subst hnumber
  rw [key_unique h' h]

end

/-- A section is the slice of a text that comes behind one of its separators. -/
structure Section.SliceOf (s : Section) (text : Text) : Prop where
  /-- In front of the first line stands a separator with the key. -/
  separator : ∃ rest, text.lineAt? (s.firstLine - 1) = some ('-' :: '-' :: rest) ∧
    Text.strip rest = s.key
  numbers : s.lines.map Prod.fst = List.range' s.firstLine s.lines.length
  /-- The lines have the numbers that they have in the text, and are no separators. -/
  lines {n : Nat} {line : Text} : (n, line) ∈ s.lines →
    text.lineAt? n = some line ∧ Text.startsWith line ['-', '-'] = false
  /-- Behind the last line stands a separator, if there is another line. -/
  next {line : Text} : text.lineAt? (s.firstLine + s.lines.length) = some line →
    Text.startsWith line ['-', '-'] = true
  body : s.body = s.lines.flatMap fun entry => entry.2 ++ ['\n']

/-- The section of a separator is a slice of the text. -/
theorem sliceOf_blockAt {text key : Text} {number : Nat} (h : (number, key) ∈ separatorsOf text)
    (identity : Text) : ((blockAt text (number, key)).toSection identity).SliceOf text where
  separator := by
    obtain ⟨line, hline, hkey⟩ := mem_separatorsOf.mp h
    obtain ⟨rest, rfl, hstrip⟩ := sectionKey?_eq_some_iff.mp hkey
    exact ⟨rest, hline, hstrip⟩
  numbers := by
    rw [lines_blockAt, Text.map_fst_numberLines, Text.length_numberLines]
    rfl
  lines {n line} hmem := by
    obtain ⟨hlt, hline, hnone⟩ := mem_lines_blockAt.mp hmem
    have hplain : isPlain line = true :=
      (isPlain_iff_of_lineAt? hline).mpr fun other => hnone n other hlt (Nat.le_refl n)
    refine ⟨hline, ?_⟩
    simpa [isPlain_eq] using hplain
  next {line} hline := by
    rw [lines_blockAt, Text.length_numberLines] at hline
    have hplain : isPlain line = false := not_isPlain_after hline
    simpa [isPlain_eq] using hplain
  body := by
    have hmap : ∀ entries : List (Nat × Text), (entries.flatMap fun entry => entry.2 ++ ['\n']) =
        Text.joinLines (entries.map Prod.snd) := by
      intro entries
      unfold Text.joinLines
      rw [List.flatMap_map]
    rw [hmap, lines_blockAt, Text.map_snd_numberLines]
    rfl

/-! ## Main statements -/

/-- Repeated keys.  The keys of a parsed effect are those of the separators in the order in which
they come up first, and the section with a key is the one that the last separator with that key
starts.  There is a warning for each separator whose key stands at an earlier one, and these
warnings are what parsing reports, in the same order; so each separator counts as a section or as a
warning. -/
theorem parse_resolves_duplicates (text identity : Text) (origin : Option SourceFile) :
    (Effect.parse text identity origin).sections.map Section.key =
      ((separatorsOf text).map Prod.snd).eraseDups ∧
    (∀ earlier number key later, separatorsOf text = earlier ++ (number, key) :: later →
      key ∉ later.map Prod.snd →
        (Effect.parse text identity origin).get? key =
          some ⟨identity, key, Text.joinLines (linesAfter text number), number + 1⟩) ∧
    (Effect.parse text identity origin).warnings = overridesOf identity (separatorsOf text) ∧
    (Effect.parse text identity origin).sections.length +
      (Effect.parse text identity origin).warnings.length = (separatorsOf text).length ∧
    (((Effect.parse text identity origin).parseJournal.filter fun record =>
      record.severity == .warning).map LogRecord.message) =
        (overridesOf identity (separatorsOf text)).map Warning.message := by
  have hwarnings : (Effect.parse text identity origin).warnings =
      overridesOf identity (separatorsOf text) := by
    rw [parse_eq_ofBlocks, Effect.warnings_ofBlocks, List.map_map]
    congr 1
    exact List.map_id _
  refine ⟨map_key_parse, ?_, hwarnings, ?_, ?_⟩
  · intro earlier number key later h hlast
    exact get?_parse h hlast
  · rw [parse_eq_ofBlocks, Effect.length_ofBlocks, List.length_map]
  · unfold Effect.parseJournal
    rw [hwarnings]
    simp [List.filter_append, List.filter_map, Function.comp_def]

/-- A text in which two keys come up in turns, with lines in front of the first separator. -/
def tideText : Text :=
  ("lead\n-- ebb\none\n--flow \ntwo\n\n-- ebb\nthree\n-- flow\n" ++ "--ebb\r\nfour").toList

/-- The separators of the text, with their line numbers. -/
theorem separatorsOf_tideText : separatorsOf tideText =
    [(2, "ebb".toList), (4, "flow".toList), (7, "ebb".toList), (9, "flow".toList),
      (10, "ebb".toList)] := by
  decide +kernel

/-- Both keys keep the place of their first separator, the last section of each counts, and there is
a warning for each repetition. -/
theorem parse_resolves_duplicates_tide :
    (Effect.parse tideText "tide".toList none).sections.map Section.key =
      ["ebb".toList, "flow".toList] ∧
    (Effect.parse tideText "tide".toList none).get? "ebb".toList =
      some ⟨"tide".toList, "ebb".toList, "four\n".toList, 11⟩ ∧
    (Effect.parse tideText "tide".toList none).warnings =
      [.duplicateSection "tide".toList "ebb".toList 2 7,
        .duplicateSection "tide".toList "flow".toList 4 9,
        .duplicateSection "tide".toList "ebb".toList 7 10] := by
  obtain ⟨hkeys, hlast, hwarnings, -, -⟩ :=
    parse_resolves_duplicates tideText "tide".toList none
  have hebb := hlast [(2, "ebb".toList), (4, "flow".toList), (7, "ebb".toList), (9, "flow".toList)]
    10 "ebb".toList [] separatorsOf_tideText (by simp)
  have hbody : Text.joinLines (linesAfter tideText 10) = "four\n".toList := by decide +kernel
  rw [separatorsOf_tideText] at hkeys hwarnings
  rw [hbody] at hebb
  exact ⟨hkeys.trans (by decide +kernel), hebb, hwarnings.trans (by decide +kernel)⟩

/-- Sections are slices of their text.  A line that stands behind the last separator with some key,
and in front of the next separator, is a line of exactly one section. -/
theorem parse_sections_are_slices (text identity : Text) (origin : Option SourceFile) :
    (∀ s ∈ (Effect.parse text identity origin).sections, s.SliceOf text) ∧
    ∀ number key n line, (number, key) ∈ separatorsOf text →
      (∀ later, number < later → (later, key) ∉ separatorsOf text) →
      number < n → text.lineAt? n = some line →
      (∀ between other, number < between → between ≤ n → (between, other) ∉ separatorsOf text) →
        ((Effect.parse text identity origin).sections.countP fun s =>
          s.lines.contains (n, line)) = 1 := by
  constructor
  · intro s hs
    obtain ⟨number, key, hseparator, rfl⟩ := exists_separator hs
    exact sliceOf_blockAt hseparator identity
  · intro number key n line hseparator hlast hlt hline hnone
    have hown : (n, line) ∈ ((blockAt text (number, key)).toSection identity).lines :=
      mem_lines_blockAt.mpr ⟨hlt, hline, hnone⟩
    have hget : (Effect.parse text identity origin).get? key =
        some ((blockAt text (number, key)).toSection identity) := by
      obtain ⟨earlier, later, hsplit⟩ := List.mem_iff_append.mp hseparator
      apply get?_parse hsplit
      intro hmem
      obtain ⟨⟨other, _⟩, hother, rfl⟩ := List.mem_map.mp hmem
      -- separators behind this one have greater numbers
      have hascend := separators_ascend text
      rw [hsplit, List.map_append, List.map_cons, List.pairwise_append,
        List.pairwise_cons] at hascend
      have hbehind : number < other := hascend.2.1.1 other (List.mem_map.mpr ⟨_, hother, rfl⟩)
      exact hlast other hbehind (by simp [hsplit, hother])
    apply countP_eq_one nodup_sections_parse (List.mem_of_find?_eq_some hget)
    · rw [List.contains_iff_mem]
      exact hown
    · intro s hs hcontains
      obtain ⟨number', key', hseparator', rfl⟩ := exists_separator hs
      rw [separator_unique hseparator hseparator' hown (List.contains_iff_mem.mp hcontains)]

/-- A section is a slice of the text, and the line behind the last separator is in just one
section. -/
theorem parse_sections_are_slices_tide :
    (∃ s ∈ (Effect.parse tideText "tide".toList none).sections, s.firstLine = 11 ∧
      s.SliceOf tideText) ∧
    ((Effect.parse tideText "tide".toList none).sections.countP fun s =>
      s.lines.contains (11, "four".toList)) = 1 := by
  obtain ⟨hslices, hlines⟩ := parse_sections_are_slices tideText "tide".toList none
  have hmem : (⟨"tide".toList, "ebb".toList, "four\n".toList, 11⟩ : Section) ∈
      (Effect.parse tideText "tide".toList none).sections := by
    decide +kernel
  refine ⟨⟨_, hmem, rfl, hslices _ hmem⟩, ?_⟩
  apply hlines 10 "ebb".toList 11 "four".toList
  · rw [separatorsOf_tideText]
    simp
  · intro later hlater
    rw [separatorsOf_tideText]
    simp
    omega
  · decide
  · decide +kernel
  · intro between other hlow hhigh
    rw [separatorsOf_tideText]
    simp
    omega

end ShaderCompose
