import ShaderCompose.Argument

/-!
# Declared sources

A declaration says where the source with a logical name lives, for sources that are not at their
default location.
-/

set_option autoImplicit false

namespace ShaderCompose

/-- Where a logical source lives.  With a package the source is embedded in it; without a location
it is at its default one.  Whether the package is a text is checked when the source is requested. -/
structure Declaration where
  logicalName : Text
  location : Option Text
  package : Option Value

namespace Declaration

/-- Whether the source is a resource of a package. -/
def embedded (d : Declaration) : Bool := d.package.isSome

/-- The declaration with the given parts.  An embedded source needs a package, and a location that
is left out is made from its name and the default extension; a package counts only for embedded
sources. -/
def ofParts (extension : Text) (logicalName location embedded package : Value) :
    Except Failure Declaration := do
  let name ← Argument.expectText "logical_name" logicalName
  let place ← Argument.expectText? "location" location
  if embedded.truth then
    if package.truth then
      let place := match place with
        | none => name ++ '.' :: extension
        | some [] => name ++ '.' :: extension
        | some given => given
      pure ⟨name, some place, some package⟩
    else
      throw (.misuse (.embeddedWithoutPackage name))
  else
    pure ⟨name, place, none⟩

/-- Whether a declaration is for a name: for the whole of it or for its last part, whatever the
letter case. -/
def isFor (d : Declaration) (name : Text) : Bool :=
  let declared := Text.lower d.logicalName
  let requested := Text.lower name
  declared == requested || declared == Path.lastPart requested

/-- A declaration as it is shown to people. -/
def summary (d : Declaration) : Text :=
  "<SourceDeclaration ".toList ++ Text.quoted d.logicalName ++
    (if d.embedded then " (embedded) ".toList else " (file) ".toList) ++
    (match d.location with
      | none => "None".toList
      | some place => Text.quoted place) ++ ['>']

end Declaration

end ShaderCompose
