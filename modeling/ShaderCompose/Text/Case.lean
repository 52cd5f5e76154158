import ShaderCompose.Text.Basic
import ShaderCompose.Text.CaseMap
import ShaderCompose.Text.Cased

/-!
# Letter case

Full case conversion of texts.  Lower-casing depends on the neighbours in one place: a capital
sigma at the end of a word becomes a final sigma.
-/

set_option autoImplicit false

namespace ShaderCompose.Text

/-- The image of a code point under the first run that covers it; the runs are in increasing
order of their first code point. -/
def imageUnder? : List CaseRun → Nat → Option Nat
  | [], _ => none
  | run :: more, n =>
    if n < run.first then none
    else match run.image? n with
      | some m => some m
      | none => imageUnder? more n

/-- The lower case of a character that stands alone. -/
def lowerChar (c : Char) : Text :=
  if c.toNat = 0x130 then ['i', Char.ofNat 0x307]
  else match imageUnder? lowerRuns c.toNat with
    | some n => [Char.ofNat n]
    | none => [c]

/-- The upper case of a character. -/
def upperChar (c : Char) : Text :=
  match upperExpansions.lookup c.toNat with
  | some codes => codes.map Char.ofNat
  | none =>
    match imageUnder? upperRuns c.toNat with
    | some n => [Char.ofNat n]
    | none => [c]

/-- Whether the first character that is not case-ignorable is cased. -/
def meetsCased (t : Text) : Bool :=
  match t.dropWhile isCaseIgnorable with
  | [] => false
  | c :: _ => isCased c

/-- The capital sigma. -/
def capitalSigma : Char := Char.ofNat 0x3a3

/-- The lower case of a sigma: the final form after a letter that no letter follows.  The text
before it is given in reverse. -/
def lowerSigma (before after : Text) : Char :=
  if meetsCased before && !meetsCased after then Char.ofNat 0x3c2 else Char.ofNat 0x3c3

/-- The lower case of a text that stands behind the given reversed text. -/
def lowerAfter (before : Text) : Text → Text
  | [] => []
  | c :: rest =>
    (if c = capitalSigma then [lowerSigma before rest] else lowerChar c) ++
      lowerAfter (c :: before) rest

/-- The lower case of a text. -/
def lower (t : Text) : Text := lowerAfter [] t

/-- The upper case of a text. -/
def upper (t : Text) : Text := t.flatMap upperChar

end ShaderCompose.Text
