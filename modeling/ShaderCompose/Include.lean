import ShaderCompose.Path
import ShaderCompose.Text.Blank

/-!
# Include lines

A line that includes another section names it by an effect key in double quotes, in angle brackets
or bare, and the key is relative to the directory of the including effect.
-/

set_option autoImplicit false

namespace ShaderCompose.Include

/-- The word that starts an include line. -/
def keyword : Text := "#include".toList

/-- The text up to a closing character, if there is some and the closing character follows it. -/
def enclosed? (close : Char) (t : Text) : Option Text :=
  match t.takeWhile (· ≠ close), t.dropWhile (· ≠ close) with
  | c :: rest, _ :: _ => some (c :: rest)
  | _, _ => none

/-- The text up to the first blank. -/
def bare (t : Text) : Text := t.takeWhile fun c => !Text.isBlank c

/-- The key at the start of a text that does not start with a blank.  Quotes or brackets that are
empty or not closed are part of a bare key. -/
def keyAt (t : Text) : Text :=
  match t with
  | '"' :: rest => (enclosed? '"' rest).getD (bare t)
  | '<' :: rest => (enclosed? '>' rest).getD (bare t)
  | _ => bare t

/-- The key that a line includes, if it is an include line. -/
def key? (line : Text) : Option Text :=
  match Text.dropStart? line keyword with
  | none => none
  | some rest =>
    match rest, Text.stripStart rest with
    | c :: _, d :: tail => if Text.isBlank c then some (keyAt (d :: tail)) else none
    | _, _ => none

/-- An included key as seen from outside the directory of the including effect. -/
def relativeTo (dir key : Text) : Text := Path.normalize (Path.join dir key)

end ShaderCompose.Include
