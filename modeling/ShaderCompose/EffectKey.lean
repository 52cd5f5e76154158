import ShaderCompose.Failure
import ShaderCompose.Text.Blank

/-!
# Effect keys

An effect key names a section of an effect: the logical name of the effect, a dot, and the section
key.  The first dot after the last slash divides the two.
-/

set_option autoImplicit false

namespace ShaderCompose

/-- An effect key taken apart. -/
structure EffectKey where
  source : Text
  sectionKey : Text
deriving DecidableEq, Repr

namespace EffectKey

/-- An effect key without the blanks around it and with slashes for backslashes. -/
def tidy (key : Text) : Text := Text.replaceChar '\\' '/' (Text.strip key)

/-- The parts of an effect key, if its last part has a name before a dot. -/
def split? (key : Text) : Option EffectKey :=
  let path := tidy key
  let dir := Path.directory path
  let last := Path.lastPart path
  let name := last.takeWhile (· ≠ '.')
  match last.dropWhile (· ≠ '.') with
  | [] => none
  | _ :: sectionKey =>
    if name.isEmpty then none
    else some ⟨if dir.isEmpty then name else Path.join dir name, sectionKey⟩

/-- The parts of an effect key, or the failure to take it apart. -/
def split (key : Text) : Except Failure EffectKey :=
  match split? key with
  | some parts => .ok parts
  | none => .error (.effect (.invalidKey key))

end EffectKey

end ShaderCompose
