import ShaderCompose.Template.Literal
import ShaderCompose.Template.Operand
import ShaderCompose.Text.Blank
import ShaderCompose.Text.Case

/-!
# Numbers spelled by texts

How a text is read as a whole number in some base, or as a double.  Digits of every script count,
and so do blanks around the number, except for the information separators.
-/

set_option autoImplicit false

namespace ShaderCompose.Template.Numeral

/-- Blanks that may stand around a number. -/
def isSpace (c : Char) : Bool := Text.isBlank c && !decide (28 ≤ c.toNat ∧ c.toNat ≤ 31)

/-- A text without the blanks around it. -/
def trim (t : Text) : Text := Text.dropEndWhile isSpace (t.dropWhile isSpace)

/-- Whether a text starts with a minus sign, and what follows its sign. -/
def takeSign : Text → Bool × Text
  | '-' :: body => (true, body)
  | '+' :: body => (false, body)
  | body => (false, body)

/-- The value of a digit in bases up to thirty-six. -/
def digitIn? (base : Nat) (c : Char) : Option Nat :=
  let value := match Text.digitValue? c with
    | some n => some n
    | none =>
      if 'a' ≤ c ∧ c ≤ 'z' then some (c.toNat - 87)
      else if 'A' ≤ c ∧ c ≤ 'Z' then some (c.toNat - 55)
      else none
  value.filter fun n => decide (n < base)

/-- The base that a mark at the start of a text stands for, and what follows the mark. -/
def takeMark : Text → Option (Nat × Text)
  | z :: m :: rest =>
    if Text.digitValue? z = some 0 then
      if m = 'x' ∨ m = 'X' then some (16, rest)
      else if m = 'o' ∨ m = 'O' then some (8, rest)
      else if m = 'b' ∨ m = 'B' then some (2, rest)
      else none
    else none
  | _ => none

/-- A text without one underscore at its start. -/
def dropUnderscore : Text → Text
  | '_' :: rest => rest
  | t => t

/-- Digits of a base, with single underscores between them, read as a number.  In bases that are no
power of two there may not be too many of them. -/
def digits? (base : Nat) (t : Text) : Option Nat :=
  match Literal.digitGroups (fun c => (digitIn? base c).isSome) t with
  | (d :: more, []) =>
    let isBinary := base = 2 ∨ base = 4 ∨ base = 8 ∨ base = 16 ∨ base = 32
    if ¬ isBinary ∧ Value.digitLimit < more.length + 1 then none
    else some ((d :: more).foldl (fun n c => base * n + (digitIn? base c).getD 0) 0)
  | _ => none

/-- The number without a sign that a text spells.  Base zero leaves the base to a mark; without one
it is ten, and a number other than zero may not start with zero. -/
def unsigned? (base : Nat) (t : Text) : Option Nat :=
  match takeMark t with
  | some (marked, rest) =>
    if base = 0 ∨ base = marked then digits? marked (dropUnderscore rest) else digits? base t
  | none =>
    if base = 0 then
      match t with
      | z :: _ =>
        (digits? 10 t).filter fun n => decide (n = 0 ∨ Text.digitValue? z ≠ some 0)
      | [] => none
    else digits? base t

/-- The whole number that a text spells in a base. -/
def whole? (base : Nat) (t : Text) : Option Int :=
  let (negative, body) := takeSign (trim t)
  (unsigned? base body).map fun n => if negative then -(n : Int) else n

/-- The double that a text without a sign spells. -/
def plainDouble? (t : Text) : Option Float :=
  let word := Text.lower t
  if word = "inf".toList ∨ word = "infinity".toList then some (1.0 / 0.0)
  else if word = "nan".toList then some (0.0 / 0.0)
  else
    let (whole, rest) := Literal.digitGroups Text.isDigit t
    let (fraction, tail) := match rest with
      | '.' :: body => Literal.digitGroups Text.isDigit body
      | _ => ([], rest)
    let exponent? : Option Int := match tail with
      | [] => some 0
      | _ =>
        match Literal.exponent? tail with
        | some (n, []) => some n
        | _ => none
    match exponent? with
    | none => none
    | some power =>
      if whole.isEmpty && fraction.isEmpty then none
      else some (Decimal.ofDecimal (Text.numberOf (whole ++ fraction)) (power - fraction.length))

/-- The double that a text spells, with blanks around it and perhaps a sign. -/
def double? (t : Text) : Option Float :=
  let (negative, body) := takeSign (trim t)
  (plainDouble? body).map fun x => if negative then -x else x

end ShaderCompose.Template.Numeral
