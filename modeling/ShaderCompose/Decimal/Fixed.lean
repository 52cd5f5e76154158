import ShaderCompose.Decimal.Shortest

/-!
# Decimals with a given number of digits

A double rounded to a number of places behind the point, or to a number of digits in all.  The exact
value is rounded, a half to the even neighbour.
-/

set_option autoImplicit false

namespace ShaderCompose.Decimal

/-- How a number is written: with places behind the point, with an exponent, or as it suits its
size. -/
inductive Style where
  | places
  | exponent
  | general
deriving DecidableEq, Repr

/-- A decimal of exactly `count + 1` digits nearest to a fraction: its digits, and the power of ten
of the first of them. -/
def rounded (num den count : Nat) : Nat × Int :=
  if num = 0 then (0, 0)
  else
    let top := magnitude num den
    let (n, d) :=
      let shift : Int := count - top
      if 0 ≤ shift then (num * tenTo shift.toNat, den) else (num, den * tenTo (-shift).toNat)
    let digits := roundedQuotient n d
    if digits < tenTo (count + 1) then (digits, top) else (digits / 10, top + 1)

/-- Digits filled up with zeros in front to a width. -/
def padded (width n : Nat) : Text :=
  let digits := Text.ofNat n
  List.replicate (width - digits.length) '0' ++ digits

/-- Digits with a point in front of the last of them.  A point that nothing follows is left out
unless it is asked for. -/
def withPoint (keepPoint : Bool) (places : Nat) (digits : Text) : Text :=
  let whole := digits.take (digits.length - places)
  let fraction := digits.drop (digits.length - places)
  if fraction.isEmpty && !keepPoint then whole else whole ++ '.' :: fraction

/-- Text without zeros at the end of its fraction, nor a point that nothing follows. -/
def dropPlaces (t : Text) : Text :=
  if t.contains '.' then
    let kept := Text.dropEndWhile (· = '0') t
    if kept.getLast? = some '.' then kept.dropLast else kept
  else t

/-- The exponent of a number, with a sign and at least two digits. -/
def exponentText (power : Int) : Text :=
  'e' :: (if power < 0 then '-' else '+') :: padded 2 power.natAbs

/-- A fraction with a number of places behind the point. -/
def writePlaces (keepPoint : Bool) (num den count : Nat) : Text :=
  withPoint keepPoint count (padded (count + 1) (roundedQuotient (num * tenTo count) den))

/-- A fraction with an exponent, and a number of digits behind the point. -/
def writeExponent (keepPoint : Bool) (num den count : Nat) : Text × Text :=
  let (digits, power) := rounded num den count
  (withPoint keepPoint count (padded (count + 1) digits), exponentText power)

/-- A fraction in a style, with a number that counts places or digits.  In the general style zeros
at the end of a fraction are left out unless they are asked for. -/
def writeFraction (style : Style) (keepPoint : Bool) (num den count : Nat) : Text :=
  match style with
  | .places => writePlaces keepPoint num den count
  | .exponent =>
    let (digits, power) := writeExponent keepPoint num den count
    digits ++ power
  | .general =>
    let count := if count = 0 then 1 else count
    let (_, power) := rounded num den (count - 1)
    let trim (t : Text) : Text := if keepPoint then t else dropPlaces t
    if -4 ≤ power ∧ power < count then
      trim (writePlaces keepPoint num den ((count : Int) - 1 - power).toNat)
    else
      let (digits, power) := writeExponent keepPoint num den (count - 1)
      trim digits ++ power

/-- A double in a style. -/
def writeStyled (style : Style) (keepPoint : Bool) (count : Nat) (x : Float) : Text :=
  match Binary.ofFloat x with
  | .undefined => "nan".toList
  | .infinite negative => if negative then "-inf".toList else "inf".toList
  | .finite negative mantissa exponent =>
    let (num, den) := scaled mantissa exponent
    let body := writeFraction style keepPoint num den count
    if negative then '-' :: body else body

end ShaderCompose.Decimal
