import ShaderCompose.Text.Basic

/-!
# The version of the library

A version has three numbers, which are written with points between them.
-/

set_option autoImplicit false

namespace ShaderCompose

/-- A version number. -/
structure Version where
  major : Nat
  minor : Nat
  patch : Nat
deriving DecidableEq, Repr

namespace Version

/-- The version of this library. -/
def current : Version := ⟨0, 1, 0⟩

/-- The numbers of a version, the most significant first. -/
def parts (v : Version) : List Nat := [v.major, v.minor, v.patch]

/-- A version as text. -/
def text (v : Version) : Text := Text.joinWith ['.'] (v.parts.map Text.ofNat)

end Version

end ShaderCompose
