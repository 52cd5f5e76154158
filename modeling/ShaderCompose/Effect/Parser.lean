import ShaderCompose.Effect.Basic
import ShaderCompose.Journal
import ShaderCompose.Text.Blank

/-!
# The effect file format

A line that starts with two dashes starts a section, and the rest of the line names it.  The lines
up to the next such line are its body; lines before the first one belong to no section.  When a
name comes up again the later section takes the place of the earlier one, with a warning.
-/

set_option autoImplicit false

namespace ShaderCompose

/-- The name of the section that a line starts, if it starts one. -/
def sectionKey? (line : Text) : Option Text :=
  (Text.dropStart? line ['-', '-']).map Text.strip

/-- A section as it stands in the file: its key, the number of the line that starts it, and the
lines of its body. -/
structure Block where
  key : Text
  line : Nat
  body : List Text
deriving DecidableEq, Repr

/-- Numbered lines cut at the lines that start sections: the lines before the first of these, and
the blocks. -/
def cutBlocks : List (Nat × Text) → List Text × List Block
  | [] => ([], [])
  | (number, line) :: rest =>
    let (body, blocks) := cutBlocks rest
    match sectionKey? line with
    | none => (line :: body, blocks)
    | some key => ([], ⟨key, number, body⟩ :: blocks)

/-- The blocks of an effect file. -/
def blocksOf (text : Text) : List Block :=
  (cutBlocks (Text.numberLines 1 (Text.splitLines text))).2

/-- The section that a block of an effect makes. -/
def Block.toSection (identity : Text) (block : Block) : Section :=
  ⟨identity, block.key, Text.joinLines block.body, block.line + 1⟩

/-- Sections with one more, which takes the place of a section with the same key. -/
def storeSection (sections : List Section) (s : Section) : List Section :=
  if sections.any (·.key == s.key) then
    sections.map fun t => if t.key == s.key then s else t
  else
    sections ++ [s]

namespace Effect

/-- An effect with one more block. -/
def addBlock (effect : Effect) (block : Block) : Effect :=
  let warning := match effect.get? block.key with
    | none => []
    | some earlier =>
      [.duplicateSection effect.identity block.key ((earlier.firstLine : Int) - 1) block.line]
  { effect with
    sections := storeSection effect.sections (block.toSection effect.identity)
    warnings := effect.warnings ++ warning }

/-- The effect in the text of an effect file. -/
def parse (text identity : Text) (origin : Option SourceFile) : Effect :=
  (blocksOf text).foldl addBlock ⟨identity, origin, [], []⟩

/-- What parsing an effect reports. -/
def parseJournal (effect : Effect) : Journal :=
  effect.warnings.map (fun warning => ⟨.warning, warning.message⟩) ++
    [⟨.debug, "Parsed effect ".toList ++ Text.quoted effect.identity ++ " with ".toList ++
      Text.ofNat effect.sections.length ++ " sections".toList⟩]

end Effect

end ShaderCompose
