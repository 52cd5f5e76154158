import ShaderCompose.Argument
import ShaderCompose.Effect.Parser

/-!
# Parsing arguments

Parsing what a caller passes as the text and the identity of an effect, which both have to be
texts.
-/

set_option autoImplicit false

namespace ShaderCompose

/-- The effect in an argument, which has to be a text, under an identity, which has to be one. -/
def Effect.parseArgument (text identity : Value) (origin : Option SourceFile) :
    Except Failure Effect := do
  let t ← Argument.expectText "text" text
  let i ← Argument.expectText "identity" identity
  pure (Effect.parse t i origin)

/-- The section with exactly the key that was passed. -/
def Effect.sectionAt (effect : Effect) (key : Value) : Except Failure Section := do
  Argument.expectKey key
  let found := match key with
    | .text t => effect.get? t
    | _ => none
  match found with
  | some s => pure s
  | none => throw (.misuse (.noSuchKey key.inspect))

end ShaderCompose
