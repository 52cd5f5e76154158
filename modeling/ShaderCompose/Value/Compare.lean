import ShaderCompose.Decimal.Binary
import ShaderCompose.Value.Basic

/-!
# Comparing values

Numbers of all kinds are compared by their exact value, texts by code points, and collections
item by item.  A strict gap cannot be compared with anything.
-/

set_option autoImplicit false

namespace ShaderCompose.Value

/-- The exact value of a number; infinities lie beyond all fractions. -/
inductive Magnitude where
  | fraction (num : Int) (den : Nat)
  | infinite (negative : Bool)
  | undefined
deriving DecidableEq, Repr

/-- The exact value of a double. -/
def Magnitude.ofFloat (x : Float) : Magnitude :=
  match Decimal.Binary.ofFloat x with
  | .finite negative mantissa exponent =>
    let (num, den) := Decimal.scaled mantissa exponent
    .fraction (if negative then -(num : Int) else num) den
  | .infinite negative => .infinite negative
  | .undefined => .undefined

/-- The exact value of a truth value, an integer or a double. -/
def magnitude? : Value → Option Magnitude
  | .bool b => some (.fraction (if b then 1 else 0) 1)
  | .int n => some (.fraction n 1)
  | .float x => some (.ofFloat x)
  | _ => Option.none

/-- The order of two exact values; nothing is comparable to an undefined one. -/
def Magnitude.order? : Magnitude → Magnitude → Option Ordering
  | .undefined, _ => Option.none
  | _, .undefined => Option.none
  | .infinite a, .infinite b => some (if a = b then .eq else if a then .lt else .gt)
  | .infinite a, .fraction _ _ => some (if a then .lt else .gt)
  | .fraction _ _, .infinite b => some (if b then .gt else .lt)
  | .fraction a b, .fraction c d => some (compare (a * d) (c * b))

/-- Whether two exact values are equal. -/
def Magnitude.equal (a b : Magnitude) : Bool := a.order? b == some .eq

/-- The exact real and imaginary parts of a number of any kind. -/
def parts? : Value → Option (Magnitude × Magnitude)
  | .complex re im => some (.ofFloat re, .ofFloat im)
  | v => v.magnitude?.map fun m => (m, .fraction 0 1)

/-- Whether two numbers are equal; anything else is not. -/
def equalNumbers (a b : Value) : Bool :=
  match a.parts?, b.parts? with
  | some (re, im), some (re', im') => re.equal re' && im.equal im'
  | _, _ => false

/-- The order of two texts by code points. -/
def textOrder (s t : Text) : Ordering :=
  if s = t then .eq else if Text.before s t then .lt else .gt

/-- Whether two ranges hold the same numbers. -/
def equalRanges (start stop step start' stop' step' : Int) : Bool :=
  let length := rangeLength start stop step
  length == rangeLength start' stop' step' &&
    (length == 0 || (start == start' && (length == 1 || step == step')))

/-- Whether a value is a number that differs even from itself. -/
def isUndefinedNumber : Value → Bool
  | .float x => x.isNaN
  | _ => false

mutual

/-- Whether two values are the same key of a dictionary. -/
def sameKey : Value → Value → Bool
  | .none, .none => true
  | .text s, .text t => s == t
  | .bytes a, .bytes b => a == b
  | .tuple a, .tuple b => sameKeys a b
  | .range a b c, .range d e f => equalRanges a b c d e f
  | .kind a, .kind b => a == b
  | .function a, .function b => a == b
  | .method _ a, .method _ b => a == b
  | .template, .template => true
  | .gap a, .gap b => a.lenient && b.lenient
  | a, b => equalNumbers a b || (isUndefinedNumber a && isUndefinedNumber b)

/-- Whether two lists hold the same keys in the same order. -/
def sameKeys : List Value → List Value → Bool
  | [], [] => true
  | a :: as, b :: bs => sameKey a b && sameKeys as bs
  | _, _ => false

end

/-- The value of the entry with a key. -/
def valueAt? (key : Value) : List (Value × Value) → Option Value
  | [] => Option.none
  | (other, item) :: rest => if sameKey other key then some item else valueAt? key rest

/-- Entries with one more; one that is there keeps its place and its key, and gets the new value. -/
def storeEntry (entries : List (Value × Value)) (key item : Value) : List (Value × Value) :=
  match entries with
  | [] => [(key, item)]
  | (other, old) :: rest =>
    if sameKey other key then (other, item) :: rest
    else (other, old) :: storeEntry rest key item

/-- Whether something holds of two values, or the strict gap that was met on the way. -/
abbrev Outcome := Except Gap Bool

mutual

/-- Whether two values are equal: numbers by value, collections item by item, and entries in any
order.  Values of different kinds are different. -/
def equal : Value → Value → Outcome
  | .gap a, b =>
    if !a.lenient then .error a
    else match b with
      | .gap b => if b.lenient then .ok true else .error b
      | _ => .ok false
  | a, .gap b =>
    match a with
    | .gap a => .error a
    | _ => if b.lenient then .ok false else .error b
  | .none, .none => .ok true
  | .text s, .text t => .ok (s == t)
  | .bytes a, .bytes b => .ok (a == b)
  | .list a, .list b => if a.length == b.length then equalItems a b else .ok false
  | .tuple a, .tuple b => equalItems a b
  | .dict a, .dict b => if a.length == b.length then entriesWithin a b else .ok false
  | .view .keys a, .view .keys b =>
    .ok (a.length == b.length && a.all fun entry => (valueAt? entry.1 b).isSome)
  | .view .items a, .view .items b =>
    if a.length == b.length then entriesWithin a b else .ok false
  | .range a b c, .range d e f => .ok (equalRanges a b c d e f)
  | .slice a b c, .slice d e f => .ok (sameKeys [a, b, c] [d, e, f])
  | .loop a b _ _, .loop c d _ _ => .ok (a == c && b == d)
  | .kind a, .kind b => .ok (a == b)
  | .function a, .function b => .ok (a == b)
  | .method a n, .method b m => if n == m then equal a b else .ok false
  | .operation a, .operation b => .ok (a == b)
  | .template, .template => .ok true
  | a, b => .ok (equalNumbers a b)

/-- Whether two lists of values are equal item by item.  A number that differs even from itself is
here the same as another such number. -/
def equalItems : List Value → List Value → Outcome
  | [], [] => .ok true
  | a :: as, b :: bs =>
    if isUndefinedNumber a && isUndefinedNumber b then equalItems as bs
    else match equal a b with
      | .ok true => equalItems as bs
      | other => other
  | _, _ => .ok false

/-- Whether every entry has an equal one under the same key among others. -/
def entriesWithin : List (Value × Value) → List (Value × Value) → Outcome
  | [], _ => .ok true
  | (key, item) :: rest, others =>
    match valueAt? key others with
    | Option.none => .ok false
    | some other =>
      if isUndefinedNumber item && isUndefinedNumber other then entriesWithin rest others
      else match equal item other with
        | .ok true => entriesWithin rest others
        | outcome => outcome

end

/-- Whether two values, taken as items of a collection, are equal. -/
def equalItem (a b : Value) : Outcome := equalItems [a] [b]

/-- Why two values have no order: one is a strict gap, or there is none between their kinds. -/
inductive Unordered where
  | gap (g : Gap)
  | kinds (left right : Text)
deriving DecidableEq, Repr

/-- The order of two values, `none` if one of them is a number that is not one. -/
abbrev OrderResult := Except Unordered (Option Ordering)

mutual

/-- The order of two values: numbers by value, texts by code points, and lists by their first
unequal items. -/
def order : Value → Value → OrderResult
  | .text s, .text t => .ok (some (textOrder s t))
  | .bytes a, .bytes b =>
    .ok (some (textOrder (a.map fun byte => Char.ofNat byte.toNat)
      (b.map fun byte => Char.ofNat byte.toNat)))
  | .list a, .list b => orderItems a b
  | .tuple a, .tuple b => orderItems a b
  | .gap g, _ => .error (.gap g)
  | _, .gap g => .error (.gap g)
  | a, b =>
    match a.magnitude?, b.magnitude? with
    | some m, some n => .ok (m.order? n)
    | _, _ => .error (.kinds a.kindName b.kindName)

/-- The order of two lists by their first unequal items. -/
def orderItems : List Value → List Value → OrderResult
  | [], [] => .ok (some .eq)
  | [], _ :: _ => .ok (some .lt)
  | _ :: _, [] => .ok (some .gt)
  | a :: as, b :: bs =>
    match equalItem a b with
    | .error g => .error (.gap g)
    | .ok true => orderItems as bs
    | .ok false => order a b

end

end ShaderCompose.Value
