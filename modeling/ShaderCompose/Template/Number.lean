import ShaderCompose.Template.Error
import ShaderCompose.Template.Tree
import ShaderCompose.Value.Compare

/-!
# Numbers of templates

Whole numbers are exact and of any size, division gives a double, and floor division and remainder
round down.  A negative number raised to a fraction is complex.
-/

set_option autoImplicit false

namespace ShaderCompose.Template

/-- A number: whole, a double, or complex. -/
inductive Number where
  | whole (n : Int)
  | double (x : Float)
  | complex (re im : Float)

/-- The number that a value is; truth values count as zero and one. -/
def numberOf? : Value → Option Number
  | .bool b => some (.whole (if b then 1 else 0))
  | .int n => some (.whole n)
  | .float x => some (.double x)
  | .complex re im => some (.complex re im)
  | _ => none

/-- A number as a value. -/
def Number.toValue : Number → Value
  | .whole n => .int n
  | .double x => .float x
  | .complex re im => .complex re im

/-- A whole number as a double, if it is not too large. -/
def toDouble (n : Int) : Result Float :=
  let x := Decimal.nearest n 1
  if x.isInf then refuse .integerTooLarge else .ok x

/-- Whether a double has a minus sign, which zero may have. -/
def isNegative (x : Float) : Bool := decide (Decimal.twoTo 63 ≤ x.toBits.toNat)

/-- The remainder of two finite doubles with the sign of the first, exactly. -/
def truncatedRemainder (x y : Float) : Float :=
  match Decimal.fractionOf? x, Decimal.fractionOf? y with
  | some (a, b), some (c, d) =>
    let r := Int.tmod (a * d) (c * b)
    let magnitude := Decimal.nearestNat r.natAbs (b * d)
    if isNegative x then -magnitude else magnitude
  | some _, none => if y.isNaN then y else x
  | none, _ => 0.0 / 0.0

/-- Quotient and remainder of doubles, rounded down. -/
def floorDivide (x y : Float) : Float × Float :=
  let r := truncatedRemainder x y
  let q := (x - r) / y
  let (r, q) := if r != 0 then
      if (y < 0) != (r < 0) then (r + y, q - 1) else (r, q)
    else (if y < 0 then -0.0 else 0.0, q)
  let q := if q != 0 then
      let f := q.floor
      if q - f > 0.5 then f + 1 else f
    else if isNegative (x / y) then -0.0 else 0.0
  (q, r)

/-- A whole number raised to a power, by squaring. -/
def wholePower (a : Int) (n : Nat) : Int :=
  if n = 0 then 1
  else
    let half := wholePower (a * a) (n / 2)
    if n % 2 = 1 then a * half else half
termination_by n

/-- The product of two complex numbers. -/
def complexProduct (a b : Float × Float) : Float × Float :=
  (a.1 * b.1 - a.2 * b.2, a.1 * b.2 + a.2 * b.1)

/-- The quotient of two complex numbers, the second of which is not zero. -/
def complexQuotient (a b : Float × Float) : Float × Float :=
  if b.2.abs ≤ b.1.abs then
    let ratio := b.2 / b.1
    let denominator := b.1 + b.2 * ratio
    ((a.1 + a.2 * ratio) / denominator, (a.2 - a.1 * ratio) / denominator)
  else if b.1.abs ≤ b.2.abs then
    let ratio := b.1 / b.2
    let denominator := b.1 * ratio + b.2
    ((a.1 * ratio + a.2) / denominator, (a.2 * ratio - a.1) / denominator)
  else (0.0 / 0.0, 0.0 / 0.0)

/-- The product of the squarings of a complex number that the binary digits of `n` ask for. -/
def complexWholePower (result square : Float × Float) (n : Nat) : Float × Float :=
  if n = 0 then result
  else
    complexWholePower (if n % 2 = 1 then complexProduct result square else result)
      (complexProduct square square) (n / 2)
termination_by n

/-- A complex number raised to a complex power that is no small whole number, by its length and its
angle. -/
def complexGeneralPower (a b : Float × Float) : Float × Float :=
  if b.1 == 0 && b.2 == 0 then (1, 0)
  else if a.1 == 0 && a.2 == 0 then (0, 0)
  else
    let length := if a.2 == 0 then a.1.abs else (a.1 * a.1 + a.2 * a.2).sqrt
    let angle := Float.atan2 a.2 a.1
    let (scale, phase) :=
      if b.2 == 0 then (length.pow b.1, angle * b.1)
      else (length.pow b.1 * (-(angle * b.2)).exp, angle * b.1 + b.2 * length.log)
    (scale * phase.cos, scale * phase.sin)

/-- A complex number raised to a complex power. -/
def complexPower (a b : Float × Float) : Result (Float × Float) :=
  let isSmall := b.2 == 0 && b.1 == b.1.floor && b.1.abs ≤ 100
  let isZero := a.1 == 0 && a.2 == 0
  if isZero && (b.2 != 0 || b.1 < 0) then refuse .zeroToComplexPower
  else
    let z :=
      if isSmall then
        let n := b.1.abs.toUInt64.toNat
        if 0 < b.1 then complexWholePower (1, 0) a n
        else complexQuotient (1, 0) (complexWholePower (1, 0) a n)
      else complexGeneralPower a b
    if z.1.isInf || z.2.isInf then refuse .complexTooLarge else .ok z

/-- The power of two doubles. -/
def doublePower (x y : Float) : Result Number :=
  if x == 0 && y < 0 then refuse .zeroToNegativePower
  else if x < 0 && !x.isInf && !y.isInf && !y.isNaN && y != y.floor then
    (complexPower (x, 0) (y, 0)).map fun z => .complex z.1 z.2
  else
    let z := x.pow y
    if z.isInf && !x.isInf && !y.isInf then refuse .resultTooLarge else .ok (.double z)

/-- An operation on two whole numbers. -/
def wholeArith (op : Arith) (a b : Int) : Result Number :=
  match op with
  | .add => .ok (.whole (a + b))
  | .sub => .ok (.whole (a - b))
  | .mul => .ok (.whole (a * b))
  | .div =>
    if b = 0 then refuse .divisionByZero
    else
      let x := Decimal.nearestNat a.natAbs b.natAbs
      if x.isInf then refuse .quotientTooLarge
      else .ok (.double (if (a < 0) != (b < 0) then -x else x))
  | .floorDiv => if b = 0 then refuse .floorDivisionByZero else .ok (.whole (a.fdiv b))
  | .mod => if b = 0 then refuse .moduloByZero else .ok (.whole (a.fmod b))
  | .pow =>
    if 0 ≤ b then .ok (.whole (wholePower a b.toNat))
    else do doublePower (← toDouble a) (← toDouble b)

/-- An operation on two doubles. -/
def doubleArith (op : Arith) (x y : Float) : Result Number :=
  match op with
  | .add => .ok (.double (x + y))
  | .sub => .ok (.double (x - y))
  | .mul => .ok (.double (x * y))
  | .div => if y == 0 then refuse .floatDivisionByZero else .ok (.double (x / y))
  | .floorDiv =>
    if y == 0 then refuse .floatFloorDivisionByZero else .ok (.double (floorDivide x y).1)
  | .mod => if y == 0 then refuse .floatModuloByZero else .ok (.double (floorDivide x y).2)
  | .pow => doublePower x y

/-- The name of an operation in messages. -/
def Arith.symbol : Arith → String
  | .add => "+"
  | .sub => "-"
  | .mul => "*"
  | .div => "/"
  | .floorDiv => "//"
  | .mod => "%"
  | .pow => "** or pow()"

/-- The refusal of an operation between two values. -/
def unsupportedBetween {α : Type} (op : Arith) (a b : Value) : Result α :=
  refuse (.badOperands op.symbol.toList a.kindName b.kindName)

/-- An operation on two complex numbers. -/
def complexArith (op : Arith) (a b : Float × Float) : Result (Float × Float) :=
  match op with
  | .add => .ok (a.1 + b.1, a.2 + b.2)
  | .sub => .ok (a.1 - b.1, a.2 - b.2)
  | .mul => .ok (complexProduct a b)
  | .div =>
    if b.1 == 0 && b.2 == 0 then refuse .complexDivisionByZero else .ok (complexQuotient a b)
  | .pow => complexPower a b
  | _ => refuse (.badOperands op.symbol.toList "complex".toList "complex".toList)

/-- A number as a double; a complex one counts as its real part. -/
def Number.toDouble : Number → Result Float
  | .whole n => Template.toDouble n
  | .double x => .ok x
  | .complex re _ => .ok re

/-- The real and imaginary parts of a number. -/
def Number.toComplex : Number → Result (Float × Float)
  | .whole n => do pure (← Template.toDouble n, 0)
  | .double x => .ok (x, 0)
  | .complex re im => .ok (re, im)

/-- Whether a number is complex. -/
def Number.isComplex : Number → Bool
  | .complex _ _ => true
  | _ => false

/-- An operation on two numbers: exact if both are whole.  Complex numbers have no whole quotient
and no remainder. -/
def numberArith (op : Arith) : Number → Number → Result Number
  | .whole a, .whole b => wholeArith op a b
  | a, b =>
    if a.isComplex || b.isComplex then do
      let z ← complexArith op (← a.toComplex) (← b.toComplex)
      pure (.complex z.1 z.2)
    else do doubleArith op (← a.toDouble) (← b.toDouble)

/-- Whether an operation cannot be applied to two numbers because one of them is complex. -/
def needsReal (op : Arith) (a b : Number) : Bool :=
  (op == .floorDiv || op == .mod) && (a.isComplex || b.isComplex)

/-- A number with its sign turned. -/
def Number.negate : Number → Number
  | .whole n => .whole (-n)
  | .double x => .double (-x)
  | .complex re im => .complex (-re) (-im)

/-- The whole part of a double. -/
def wholePart (x : Float) : Result Int :=
  match Decimal.fractionOf? x with
  | some (num, den) => .ok (Int.tdiv num den)
  | none => if x.isNaN then refuse .undefinedToInteger else refuse .infinityToInteger

end ShaderCompose.Template
