/-!
# Floating-point numbers as exact fractions

A finite double is an integer times a power of two.  This module takes doubles apart into that
form, and rounds an exact fraction back to the nearest double.
-/

set_option autoImplicit false

namespace ShaderCompose.Decimal

/-- A power of two. -/
def twoTo (n : Nat) : Nat := Nat.pow 2 n

/-- A power of ten. -/
def tenTo (n : Nat) : Nat := Nat.pow 10 n

/-- A double taken apart: a finite one is `mantissa * 2 ^ exponent`. -/
inductive Binary where
  | finite (negative : Bool) (mantissa : Nat) (exponent : Int)
  | infinite (negative : Bool)
  | undefined
deriving DecidableEq, Repr

/-- The exact value of a double. -/
def Binary.ofFloat (x : Float) : Binary :=
  let bits : Nat := x.toBits.toNat
  let negative := bits / twoTo 63 % 2 == 1
  let biased : Nat := bits / twoTo 52 % 2048
  let fraction : Nat := bits % twoTo 52
  if biased = 2047 then
    if fraction = 0 then .infinite negative else .undefined
  else if biased = 0 then
    .finite negative fraction (-1074)
  else
    .finite negative (twoTo 52 + fraction) ((biased : Int) - 1075)

/-- A natural number times a power of two, divided out to numerator and denominator. -/
def scaled (mantissa : Nat) (exponent : Int) : Nat × Nat :=
  if 0 ≤ exponent then (mantissa * twoTo exponent.toNat, 1)
  else (mantissa, twoTo (-exponent).toNat)

/-- The exact fraction `numerator / denominator` of a finite double. -/
def fractionOf? (x : Float) : Option (Int × Nat) :=
  match Binary.ofFloat x with
  | .finite negative mantissa exponent =>
    let (num, den) := scaled mantissa exponent
    some (if negative then -(num : Int) else num, den)
  | _ => none

/-- A quotient rounded to the nearest integer, a half to the even one. -/
def roundedQuotient (num den : Nat) : Nat :=
  let q := num / den
  let rest := 2 * (num % den)
  if rest < den then q
  else if den < rest then q + 1
  else q + q % 2

/-- The numerator and denominator of `num / den` divided by a power of two. -/
def dividedByTwoTo (num den : Nat) (exponent : Int) : Nat × Nat :=
  if 0 ≤ exponent then (num, den * twoTo exponent.toNat) else (num * twoTo (-exponent).toNat, den)

/-- The least exponent of a double. -/
def leastExponent : Int := -1074

/-- The exponent of the double nearest to a positive fraction: the one that leaves 53 binary digits
before the point, unless it is less than the least there is. -/
def exponentOf (num den : Nat) : Int :=
  let guess := (Nat.log2 num : Int) - (Nat.log2 den : Int) - 53
  let (n, d) := dividedByTwoTo num den guess
  let exact := if n / d < twoTo 53 then guess else guess + 1
  if exact < leastExponent then leastExponent else exact

/-- The double nearest to a non-negative fraction, rounded once. -/
def nearestNat (num den : Nat) : Float :=
  if num = 0 then 0
  else
    let exponent := exponentOf num den
    let (n, d) := dividedByTwoTo num den exponent
    (Float.ofNat (roundedQuotient n d)).scaleB exponent

/-- The double nearest to a fraction. -/
def nearest (num : Int) (den : Nat) : Float :=
  if num < 0 then -(nearestNat num.natAbs den) else nearestNat num.natAbs den

/-- The double nearest to `digits * 10 ^ exponent`.  Beyond all doubles it is infinite, and far
below the least one it is zero. -/
def ofDecimal (digits : Nat) (exponent : Int) : Float :=
  let size : Int := (Nat.toDigits 10 digits).length + exponent
  if digits = 0 ∨ size < -330 then 0
  else if 310 < size then 1.0 / 0.0
  else if 0 ≤ exponent then nearestNat (digits * tenTo exponent.toNat) 1
  else nearestNat digits (tenTo (-exponent).toNat)

end ShaderCompose.Decimal
