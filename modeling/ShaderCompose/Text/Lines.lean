import ShaderCompose.Text.Basic

/-!
# Lines

Shader compilers end a line at a line feed, a carriage return, or the two together, and nowhere
else.  Splitting and joining lines are inverse on lines that hold no break.
-/

set_option autoImplicit false

namespace ShaderCompose.Text

/-- The lines of a text.  A break at the very end does not start another line. -/
def splitLines : Text → List Text
  | [] => []
  | '\r' :: '\n' :: rest => [] :: splitLines rest
  | '\r' :: rest => [] :: splitLines rest
  | '\n' :: rest => [] :: splitLines rest
  | c :: rest =>
    match splitLines rest with
    | [] => [[c]]
    | line :: more => (c :: line) :: more

/-- The lines written one after the other, each ended by a line feed. -/
def joinLines (lines : List Text) : Text := lines.flatMap fun line => line ++ ['\n']

/-- The lines paired with their numbers, counted from the given one. -/
def numberLines (first : Nat) : List Text → List (Nat × Text)
  | [] => []
  | line :: more => (first, line) :: numberLines (first + 1) more

/-- Every break of a text written as a line feed. -/
def unifyBreaks : Text → Text
  | [] => []
  | '\r' :: '\n' :: rest => '\n' :: unifyBreaks rest
  | '\r' :: rest => '\n' :: unifyBreaks rest
  | c :: rest => c :: unifyBreaks rest

end ShaderCompose.Text
