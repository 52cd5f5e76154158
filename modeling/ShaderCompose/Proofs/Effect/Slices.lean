import ShaderCompose.Effect.Parser
import ShaderCompose.Proofs.Effect.BestSection
import ShaderCompose.Proofs.Lists
import ShaderCompose.Proofs.Text.Lines

/-!
# Sections are slices of their file

Every section of a parsed effect comes from a block of the file, and the lines of the section are
the lines of the file that follow the line which starts the block, up to the next such line.  So a
line of a section with number `n` is line `n` of the file.
-/

set_option autoImplicit false

namespace ShaderCompose

/-! ## Blocks -/

/-- Lines that start no section. -/
def isPlain (line : Text) : Bool := (sectionKey? line).isNone

/-- What stands before the first block are the lines up to the first that starts a section. -/
theorem cutBlocks_fst (first : Nat) (lines : List Text) :
    (cutBlocks (Text.numberLines first lines)).1 = lines.takeWhile isPlain := by
  induction lines generalizing first with
  | nil => rfl
  | cons line more ih =>
    simp only [Text.numberLines, cutBlocks]
    cases hkey : sectionKey? line with
    | none => simp [isPlain, hkey, ih]
    | some key => simp [isPlain, hkey]

/-- Lines that start no section go in front of what the lines behind them are cut into. -/
theorem cutBlocks_plain_append {lines : List Text} (h : ∀ line ∈ lines, isPlain line = true)
    (first : Nat) (rest : List Text) :
    cutBlocks (Text.numberLines first (lines ++ rest)) =
      (lines ++ (cutBlocks (Text.numberLines (first + lines.length) rest)).1,
        (cutBlocks (Text.numberLines (first + lines.length) rest)).2) := by
  induction lines generalizing first with
  | nil => rfl
  | cons line more ih =>
    have hline : sectionKey? line = none := by
      simpa [isPlain] using h line List.mem_cons_self
    have hmore := ih (fun other hother => h other (List.mem_cons_of_mem _ hother)) (first + 1)
    have hfirst : first + 1 + more.length = first + (line :: more).length := by
      rw [List.length_cons]
      omega
    rw [hfirst] at hmore
    simp only [List.cons_append, Text.numberLines, cutBlocks, hmore, hline]

/-- A block is started by a line of the file, and its body are the lines from there up to the next
line that starts a section. -/
theorem exists_of_mem_cutBlocks {first : Nat} {lines : List Text} {block : Block}
    (h : block ∈ (cutBlocks (Text.numberLines first lines)).2) :
    ∃ i line, lines[i]? = some line ∧ sectionKey? line = some block.key ∧
      block.line = first + i ∧ block.body = (lines.drop (i + 1)).takeWhile isPlain := by
  induction lines generalizing first with
  | nil => simp [Text.numberLines, cutBlocks] at h
  | cons line more ih =>
    simp only [Text.numberLines, cutBlocks] at h
    have hlater : block ∈ (cutBlocks (Text.numberLines (first + 1) more)).2 →
        ∃ i found, (line :: more)[i]? = some found ∧ sectionKey? found = some block.key ∧
          block.line = first + i ∧
            block.body = ((line :: more).drop (i + 1)).takeWhile isPlain := by
      intro hmem
      obtain ⟨i, found, hfound, hkey, hnumber, hbody⟩ := ih hmem
      exact ⟨i + 1, found, by simpa using hfound, hkey, by omega, by simpa using hbody⟩
    cases hkey : sectionKey? line with
    | none =>
      simp only [hkey] at h
      exact hlater h
    | some key =>
      simp only [hkey] at h
      rcases List.mem_cons.mp h with rfl | h
      · exact ⟨0, line, by simp, hkey, by simp, by simp [cutBlocks_fst]⟩
      · exact hlater h

/-- The lines of a block are lines of the file without breaks. -/
theorem unbroken_of_mem_body {text line : Text} {block : Block} (hblock : block ∈ blocksOf text)
    (hline : line ∈ block.body) : Text.Unbroken line := by
  obtain ⟨i, start, -, -, -, hbody⟩ := exists_of_mem_cutBlocks hblock
  rw [hbody] at hline
  have hmem : line ∈ Text.splitLines text :=
    List.mem_of_mem_drop ((List.takeWhile_sublist _).subset hline)
  exact Text.unbroken_of_mem_splitLines hmem

/-- The lines of a section are those that its body was written from. -/
theorem lines_toSection_of_unbroken {block : Block} (h : ∀ line ∈ block.body, Text.Unbroken line)
    (identity : Text) :
    (block.toSection identity).lines = Text.numberLines (block.line + 1) block.body := by
  unfold Section.lines Block.toSection
  rw [Text.splitLines_joinLines h]

/-- The lines of a section that a block makes are those of the block. -/
theorem lines_toSection {text : Text} {block : Block} (h : block ∈ blocksOf text)
    (identity : Text) :
    (block.toSection identity).lines = Text.numberLines (block.line + 1) block.body :=
  lines_toSection_of_unbroken (fun _ hline => unbroken_of_mem_body h hline) identity

/-! ## Parsed effects -/

/-- Of the sections after one is stored, each is that one or was there before. -/
theorem mem_storeSection {sections : List Section} {s t : Section}
    (h : t ∈ storeSection sections s) : t = s ∨ t ∈ sections := by
  unfold storeSection at h
  split at h
  · obtain ⟨u, hu, rfl⟩ := List.mem_map.mp h
    split
    · exact Or.inl rfl
    · exact Or.inr hu
  · rcases List.mem_append.mp h with h | h
    · exact Or.inr h
    · exact Or.inl (List.mem_singleton.mp h)

namespace Effect

/-- Adding a block keeps the identity of an effect. -/
@[simp]
theorem identity_addBlock (effect : Effect) (block : Block) :
    (effect.addBlock block).identity = effect.identity := rfl

/-- Adding blocks keeps the identity of an effect. -/
theorem identity_foldl_addBlock (blocks : List Block) (effect : Effect) :
    (blocks.foldl addBlock effect).identity = effect.identity := by
  induction blocks generalizing effect with
  | nil => rfl
  | cons block more ih => rw [List.foldl_cons, ih, identity_addBlock]

/-- A parsed effect has the identity it was parsed with. -/
@[simp]
theorem identity_parse (text identity : Text) (origin : Option SourceFile) :
    (parse text identity origin).identity = identity :=
  identity_foldl_addBlock _ _

/-- After blocks are added, a section was there before or comes from one of them. -/
theorem mem_sections_foldl {blocks : List Block} {effect : Effect} {s : Section}
    (h : s ∈ (blocks.foldl addBlock effect).sections) :
    s ∈ effect.sections ∨ ∃ block ∈ blocks, s = block.toSection effect.identity := by
  induction blocks generalizing effect with
  | nil => exact Or.inl h
  | cons block more ih =>
    rcases ih h with h | ⟨other, hother, rfl⟩
    · rcases mem_storeSection h with rfl | h
      · exact Or.inr ⟨block, List.mem_cons_self, rfl⟩
      · exact Or.inl h
    · exact Or.inr ⟨other, List.mem_cons_of_mem _ hother, rfl⟩

/-- Every section of a parsed effect comes from a block of the file. -/
theorem mem_sections_parse {text identity : Text} {origin : Option SourceFile} {s : Section}
    (h : s ∈ (parse text identity origin).sections) :
    ∃ block ∈ blocksOf text, s = block.toSection identity := by
  rcases mem_sections_foldl h with h | h
  · simp at h
  · exact h

/-- The origin of an effect plays no part in adding blocks. -/
theorem foldl_addBlock_origin (blocks : List Block) (effect : Effect) (origin : Option SourceFile) :
    blocks.foldl addBlock { effect with origin } =
      { blocks.foldl addBlock effect with origin } := by
  induction blocks generalizing effect with
  | nil => rfl
  | cons block more ih => exact ih (effect.addBlock block)

/-- The sections of a parsed effect do not depend on the source file that it is said to come
from. -/
theorem sections_parse_origin (text identity : Text) (origin : Option SourceFile) :
    (parse text identity origin).sections = (parse text identity none).sections := by
  unfold parse
  rw [foldl_addBlock_origin (blocksOf text) ⟨identity, none, [], []⟩ origin]

end Effect

/-! ## Slices -/

/-- The numbered lines of a section are lines of the file that it was parsed from: a line with
number `n` is line `n` of the file, counted from one. -/
theorem getElem?_of_mem_lines {text identity line : Text} {origin : Option SourceFile}
    {s : Section} {n : Nat} (hs : s ∈ (Effect.parse text identity origin).sections)
    (hline : (n, line) ∈ s.lines) :
    1 ≤ n ∧ (Text.splitLines text)[n - 1]? = some line := by
  obtain ⟨block, hblock, rfl⟩ := Effect.mem_sections_parse hs
  rw [lines_toSection hblock] at hline
  obtain ⟨j, rfl, hj⟩ := Text.mem_numberLines.mp hline
  obtain ⟨i, start, -, -, hnumber, hbody⟩ := exists_of_mem_cutBlocks hblock
  have hdrop : ((Text.splitLines text).drop (i + 1))[j]? = some line := by
    rw [hbody] at hj
    exact (getElem?_takeWhile.mp hj).1
  refine ⟨by omega, ?_⟩
  rw [List.getElem?_drop] at hdrop
  rw [hnumber, show 1 + i + 1 + j - 1 = i + 1 + j by omega]
  exact hdrop

end ShaderCompose
