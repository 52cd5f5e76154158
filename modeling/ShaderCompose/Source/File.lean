import ShaderCompose.Path
import ShaderCompose.Text.Case
import ShaderCompose.Text.Quoted

/-!
# Source files

Where the text of an effect lives: at a path, or as a resource embedded in a package.
-/

set_option autoImplicit false

namespace ShaderCompose

/-- A source that shader code refers to by its logical name.  Relative locations are read from the
working directory. -/
structure SourceFile where
  logicalName : Text
  location : Text
  package : Option Text
  workDir : Text
deriving DecidableEq, Repr

namespace SourceFile

/-- Whether the source is a resource of a package. -/
def embedded (file : SourceFile) : Bool := file.package.isSome

/-- The canonical name of a source: the absolute path, or the package and the place in it. -/
def identity (file : SourceFile) : Text :=
  match file.package with
  | some package => package ++ ':' :: file.location
  | none => Path.absolute file.workDir file.location

/-- Whether two sources go by the same name, whatever its letter case. -/
def sameName (a b : SourceFile) : Bool := Text.lower a.logicalName == Text.lower b.logicalName

/-- A source as it is shown to people. -/
def summary (file : SourceFile) : Text :=
  "<SourceFile ".toList ++ Text.quoted file.logicalName ++ " at ".toList ++
    Text.quoted file.identity ++ ['>']

end SourceFile

end ShaderCompose
