import ShaderCompose.Effect.Basic

/-!
# Finding the section for a key

A section matches a requested key that starts with its own key, whatever the letter case.  The
longest key wins, and among keys of equal length the first one.
-/

set_option autoImplicit false

namespace ShaderCompose

/-- Whether a section is for a requested key. -/
def Section.isFor (s : Section) (requested : Text) : Bool :=
  Text.startsWith (Text.lower requested) (Text.lower s.key)

/-- The better of a section found so far and the next one: the one with the longer key, the
earlier one if they are equally long. -/
def Section.better : Option Section → Section → Option Section
  | none, s => some s
  | some found, s => if found.key.length < s.key.length then some s else some found

/-- The section of an effect that best matches a requested key. -/
def Effect.bestSection (effect : Effect) (requested : Text) : Option Section :=
  (effect.sections.filter (·.isFor requested)).foldl Section.better none

end ShaderCompose
