import ShaderCompose.Text.Basic
import ShaderCompose.Decimal.Binary

/-!
# The shortest decimal that reads back

A double stands for every real number that rounds to it.  Its text is the decimal with the fewest
digits among those, and of several with equally few digits the nearest one.
-/

set_option autoImplicit false

namespace ShaderCompose.Decimal

/-- A decimal `digits * 10 ^ exponent`. -/
structure Numeral where
  digits : Nat
  exponent : Int
deriving DecidableEq, Repr

/-- The greatest `k` with `10 ^ k ≤ num / den`, for a positive fraction. -/
def magnitude (num den : Nat) : Int :=
  if den ≤ num then
    ((Nat.toDigits 10 (num / den)).length : Int) - 1
  else
    match (List.range 400).find? fun j => decide (den ≤ num * tenTo j) with
    | some j => -(j : Int)
    | none => -400

/-- The reals that round to a double: the fractions `low / den` to `high / den`, with or without
the ends. -/
structure Interval where
  low : Nat
  value : Nat
  high : Nat
  den : Nat
  closed : Bool

/-- The interval of `mantissa * 2 ^ exponent`.  Below a power of two the doubles lie closer. -/
def intervalOf (mantissa : Nat) (exponent : Int) : Interval :=
  let narrow := mantissa = twoTo 52 && decide (-1074 < exponent)
  let (unit, den) := scaled 1 (exponent - 2)
  { low := (4 * mantissa - (if narrow then 1 else 2)) * unit
    value := 4 * mantissa * unit
    high := (4 * mantissa + 2) * unit
    den
    closed := mantissa % 2 == 0 }

/-- Whether a decimal lies in an interval. -/
def Interval.holds (i : Interval) (d : Numeral) : Bool :=
  let (num, den) :=
    if 0 ≤ d.exponent then (d.digits * tenTo d.exponent.toNat, 1)
    else (d.digits, tenTo (-d.exponent).toNat)
  if i.closed then decide (i.low * den ≤ num * i.den ∧ num * i.den ≤ i.high * den)
  else decide (i.low * den < num * i.den ∧ num * i.den < i.high * den)

/-- The best decimal of an interval on the grid of multiples of `10 ^ exponent`: one of the two
neighbours of the value, the nearer one if both lie in the interval. -/
def Interval.onGrid? (i : Interval) (exponent : Int) : Option Numeral :=
  let (num, den) :=
    if 0 ≤ exponent then (i.value, i.den * tenTo exponent.toNat)
    else (i.value * tenTo (-exponent).toNat, i.den)
  let down : Numeral := ⟨num / den, exponent⟩
  let up : Numeral := ⟨num / den + 1, exponent⟩
  match i.holds down, i.holds up with
  | true, true =>
    let rest := 2 * (num % den)
    some (if rest < den || (rest = den && down.digits % 2 = 0) then down else up)
  | true, false => some down
  | false, true => some up
  | false, false => none

/-- A decimal without zeros at the end of its digits. -/
def Numeral.trim : Nat → Numeral → Numeral
  | 0, d => d
  | n + 1, d =>
    if d.digits ≠ 0 ∧ d.digits % 10 = 0 then trim n ⟨d.digits / 10, d.exponent + 1⟩ else d

/-- The shortest decimal of a positive double `mantissa * 2 ^ exponent`. -/
def shortest (mantissa : Nat) (exponent : Int) : Numeral :=
  let i := intervalOf mantissa exponent
  let top := magnitude i.value i.den
  match (List.range 17).findSome? fun (n : Nat) => i.onGrid? (top - n) with
  | some d => d.trim 40
  | none => ⟨0, 0⟩

/-- How decimals are laid out: with an exponent if the point would fall before `leastPoint` or
behind `greatestPoint`, counted from the first digit. -/
structure Layout where
  leastPoint : Int
  greatestPoint : Int
  exponentWidth : Nat

/-- Positional from four places behind the point up to sixteen before it; an exponent has a sign
and at least two digits. -/
def Layout.standard : Layout := ⟨-3, 16, 2⟩

/-- A positive decimal in the given layout, with at least one place unless it has an exponent. -/
def Layout.write (layout : Layout) (d : Numeral) : Text :=
  let digits := Text.ofNat d.digits
  let point : Int := digits.length + d.exponent
  if layout.leastPoint ≤ point ∧ point ≤ layout.greatestPoint then
    if point ≤ 0 then
      '0' :: '.' :: (List.replicate (-point).toNat '0' ++ digits)
    else if digits.length ≤ point.toNat then
      digits ++ List.replicate (point.toNat - digits.length) '0' ++ ['.', '0']
    else
      digits.take point.toNat ++ '.' :: digits.drop point.toNat
  else
    let power := point - 1
    let powerDigits := Text.ofNat power.natAbs
    let mantissa := match digits with
      | [] => []
      | [digit] => [digit]
      | digit :: more => digit :: '.' :: more
    mantissa ++ 'e' :: (if power < 0 then '-' else '+') ::
      (List.replicate (layout.exponentWidth - powerDigits.length) '0' ++ powerDigits)

/-- The text of a double. -/
def ofFloat (x : Float) : Text :=
  match Binary.ofFloat x with
  | .undefined => "nan".toList
  | .infinite negative => if negative then "-inf".toList else "inf".toList
  | .finite negative mantissa exponent =>
    let body :=
      if mantissa = 0 then "0.0".toList else Layout.standard.write (shortest mantissa exponent)
    if negative then '-' :: body else body

end ShaderCompose.Decimal
