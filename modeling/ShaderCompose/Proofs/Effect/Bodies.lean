import ShaderCompose.Proofs.Effect.Slices
import ShaderCompose.Proofs.Text.Breaks

/-!
# Bodies and their lines

A body is written with a line feed behind every line, so its lines are those that it was written
from.  Of other texts, too, nothing is lost when they are split but the kind of their breaks, and
whether there is one at the end: joining the lines gives the regular text.
-/

set_option autoImplicit false

namespace ShaderCompose

/-- The lines of a text have no breaks in them, and joined they are the text with a line feed for
every break and, unless it is empty, one at its end.  Lines without breaks come back when they are
joined and split again.  So the lines of a section are the lines that its body was written from, and
those of a parsed effect are the lines of the blocks of the file. -/
theorem split_inverts_join :
    (∀ t : Text, (∀ line ∈ Text.splitLines t, Text.Unbroken line) ∧
      Text.joinLines (Text.splitLines t) = Text.regular t) ∧
    (∀ lines : List Text, (∀ line ∈ lines, Text.Unbroken line) →
      Text.splitLines (Text.joinLines lines) = lines) ∧
    (∀ (block : Block) (identity : Text), (∀ line ∈ block.body, Text.Unbroken line) →
      (block.toSection identity).lines = Text.numberLines (block.line + 1) block.body) ∧
    ∀ (text identity : Text) (origin : Option SourceFile),
      ∀ s ∈ (Effect.parse text identity origin).sections, ∃ block ∈ blocksOf text,
        s = block.toSection identity ∧
          s.lines = Text.numberLines (block.line + 1) block.body := by
  refine ⟨fun t => ⟨fun line hline => Text.unbroken_of_mem_splitLines hline,
    Text.joinLines_splitLines t⟩, fun lines hlines => Text.splitLines_joinLines hlines,
    fun block identity hbody => lines_toSection_of_unbroken hbody identity, ?_⟩
  intro text identity origin s hs
  obtain ⟨block, hblock, rfl⟩ := Effect.mem_sections_parse hs
  exact ⟨block, hblock, rfl, lines_toSection hblock identity⟩

/-- A file with a section that ends with an empty line. -/
def duneText : Text := "lead\r\n-- top\rx\r\r\n\n".toList

/-- Breaks of all kinds, empty lines in the middle and at the end, and a section of them. -/
theorem split_inverts_join_dune :
    Text.joinLines (Text.splitLines "a\r\r\n\n\rb".toList) = "a\n\n\n\nb\n".toList ∧
    Text.joinLines (Text.splitLines []) = [] ∧
    Text.splitLines (Text.joinLines [[], "\u2028x".toList, [], []]) =
      [[], "\u2028x".toList, [], []] ∧
    (Block.toSection "dune".toList ⟨"top".toList, 4, ["x".toList, [], []]⟩).lines =
      [(5, "x".toList), (6, []), (7, [])] ∧
    ∃ block ∈ blocksOf duneText,
      (⟨"dune".toList, "top".toList, "x\n\n\n".toList, 3⟩ : Section) =
        block.toSection "dune".toList := by
  obtain ⟨hsplit, hjoin, hblock, hparse⟩ := split_inverts_join
  refine ⟨?_, ?_, ?_, ?_, ?_⟩
  · rw [(hsplit _).2]
    decide +kernel
  · rw [(hsplit _).2]
    decide +kernel
  · exact hjoin _ (by decide +kernel)
  · exact hblock ⟨"top".toList, 4, ["x".toList, [], []]⟩ "dune".toList (by decide +kernel)
  · obtain ⟨block, hmem, hsection, -⟩ := hparse duneText "dune".toList none
      ⟨"dune".toList, "top".toList, "x\n\n\n".toList, 3⟩ (by decide +kernel)
    exact ⟨block, hmem, hsection⟩

end ShaderCompose
