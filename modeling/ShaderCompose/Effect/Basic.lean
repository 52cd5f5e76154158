import ShaderCompose.Source.File
import ShaderCompose.Text.Lines

/-!
# Effects

An effect is a parsed effect file: named sections of shader source in the order in which their
names came up first.
-/

set_option autoImplicit false

namespace ShaderCompose

/-- What is worth a remark but does not stop an operation. -/
inductive Warning where
  | duplicateSection (identity key : Text) (firstLine line : Int)
  | duplicateInclude (identity key effectKey : Text)
deriving DecidableEq, Repr

/-- How a section that takes the place of another one is described; the identity of the effect and
the lines are given as they are shown. -/
def Wording.duplicateSection (identity key firstLine line : Text) : Text :=
  "Section '".toList ++ key ++ "' in effect ".toList ++ identity ++ " at line ".toList ++ line ++
    " overrides the section defined at line ".toList ++ firstLine

/-- How a section that is requested again is described. -/
def Wording.duplicateInclude (effectKey : Text) : Text :=
  "Shader already included: ".toList ++ effectKey

/-- The description of a warning. -/
def Warning.message : Warning → Text
  | duplicateSection identity key firstLine line =>
    Wording.duplicateSection (Text.quoted identity) key (Text.ofInt firstLine) (Text.ofInt line)
  | duplicateInclude _ _ effectKey => Wording.duplicateInclude effectKey

/-- What identifies a section: the identity of its effect, and its key. -/
abbrev SectionId := Text × Text

/-- A named block of source within an effect. -/
structure Section where
  /-- The identity of the effect that holds the section. -/
  identity : Text
  key : Text
  /-- The source text; each line ends with a line feed. -/
  body : Text
  /-- The number, in the effect file, of the first line of the body. -/
  firstLine : Nat
deriving DecidableEq, Repr

namespace Section

/-- What identifies a section. -/
def id (s : Section) : SectionId := (s.identity, s.key)

/-- The lines of the body with their numbers in the effect file. -/
def lines (s : Section) : List (Nat × Text) :=
  Text.numberLines s.firstLine (Text.splitLines s.body)

/-- A section as it is shown to people. -/
def summary (s : Section) : Text :=
  "<Section '".toList ++ s.key ++ "' of ".toList ++ Text.quoted s.identity ++ " at line ".toList ++
    Text.ofNat s.firstLine ++ ['>']

end Section

/-- A parsed effect file. -/
structure Effect where
  identity : Text
  origin : Option SourceFile
  /-- The sections in the order in which their keys came up first, one for each key. -/
  sections : List Section
  warnings : List Warning
deriving DecidableEq, Repr

namespace Effect

/-- The section with exactly the given key. -/
def get? (effect : Effect) (key : Text) : Option Section := effect.sections.find? (·.key == key)

/-- An effect as it is shown to people. -/
def summary (effect : Effect) : Text :=
  "<Effect ".toList ++ Text.quoted effect.identity ++ " with ".toList ++
    Text.ofNat effect.sections.length ++ " sections>".toList

end Effect

end ShaderCompose
