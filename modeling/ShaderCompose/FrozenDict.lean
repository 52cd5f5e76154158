import ShaderCompose.Argument
import ShaderCompose.Value.Compare

/-!
# Read-only dictionaries

Entries in the order in which their keys came up first, each with the last value given for its key.
A dictionary can be compared and hashed, and never changed.
-/

set_option autoImplicit false

namespace ShaderCompose

/-- What equal values have in common: numbers that are equal have the same residue, and texts the
same bytes in memory. -/
inductive HashCode where
  | none
  | number (residue : Int)
  | memory (data : List UInt8)
deriving DecidableEq, Repr

namespace HashCode

/-- The prime modulus of the residues. -/
def modulus : Nat := Decimal.twoTo 61 - 1

/-- The residue of a non-negative number `num / 2 ^ shift`; two to the power of 61 counts as one. -/
def residue (num shift : Nat) : Nat := num * Decimal.twoTo (61 - shift % 61) % modulus

/-- The residue with a sign; minus one is kept free. -/
def signed (negative : Bool) (residue : Nat) : Int :=
  let n : Int := if negative then -(residue : Int) else residue
  if n = -1 then -2 else n

/-- The residue of a double. -/
def ofFloat (x : Float) : HashCode :=
  match Decimal.Binary.ofFloat x with
  | .finite negative mantissa exponent =>
    let (num, shift) :=
      if 0 ≤ exponent then (mantissa * Decimal.twoTo exponent.toNat, 0)
      else (mantissa, (-exponent).toNat)
    .number (signed negative (residue num shift))
  | .infinite negative => .number (if negative then -314159 else 314159)
  | .undefined => .none

/-- The hash code of bytes in memory; that of none is zero. -/
def ofBytes : List UInt8 → HashCode
  | [] => .number 0
  | data => .memory data

/-- The given number of bytes of a number, the lowest first. -/
def littleEndian : Nat → Nat → List UInt8
  | 0, _ => []
  | width + 1, n => UInt8.ofNat (n % 256) :: littleEndian width (n / 256)

/-- How many bytes each character of a text takes in memory: as many as the widest one needs. -/
def widthOf (t : Text) : Nat :=
  if t.all (·.toNat < 0x100) then 1 else if t.all (·.toNat < 0x10000) then 2 else 4

/-- The hash code of a text. -/
def ofText (t : Text) : HashCode :=
  ofBytes (t.flatMap fun c => littleEndian (widthOf t) c.toNat)

/-- The hash code of a value, if it has one. -/
def of? : Value → Option HashCode
  | .none => some .none
  | .bool b => some (.number (if b then 1 else 0))
  | .int n => some (.number (signed (decide (n < 0)) (residue n.natAbs 0)))
  | .float x => some (ofFloat x)
  | .text t => some (ofText t)
  | .bytes data => some (ofBytes data)
  | _ => Option.none

end HashCode

/-- Entries that do not change. -/
structure FrozenDict where
  entries : List (Value × Value)

namespace FrozenDict

/-- Whether a key comes before another one, which not all keys can say of each other. -/
def precedes (a b : Value) : Except Failure Bool :=
  match Value.order a b with
  | .ok order => .ok (order == some .lt)
  | .error _ => .error (.evaluation (.notComparable "<".toList a.kindName b.kindName))

/-- Cuts off the keys that go on in one direction from a key: down if each comes before the one in
front of it, and else up. -/
def takeRun (down : Bool) (last : Value) : List Value → Except Failure (List Value × List Value)
  | [] => .ok ([], [])
  | key :: rest => do
    if (← precedes key last) == down then
      let (run, others) ← takeRun down key rest
      pure (key :: run, others)
    else pure ([], key :: rest)

/-- The keys of a list that are in order from its start on, put in increasing order, and the
others. -/
def firstRun : List Value → Except Failure (List Value × List Value)
  | [] => .ok ([], [])
  | [key] => .ok ([key], [])
  | first :: second :: rest => do
    let down ← precedes second first
    let (run, others) ← takeRun down second rest
    let run := first :: second :: run
    pure (if down then run.reverse else run, others)

/-- The place of a key among keys in order, found by halving the stretch it can be in. -/
def placeIn (key : Value) (keys : List Value) : Nat → Nat → Nat → Except Failure Nat
  | 0, low, _ => .ok low
  | fuel + 1, low, high =>
    if low < high then
      let middle := low + (high - low) / 2
      match keys[middle]? with
      | none => .ok low
      | some other => do
        if ← precedes key other then placeIn key keys fuel low middle
        else placeIn key keys fuel (middle + 1) high
    else .ok low

/-- Keys in order with further ones put in, one after the other. -/
def insertAll (keys : List Value) : List Value → Except Failure (List Value)
  | [] => .ok keys
  | key :: rest => do
    let place ← placeIn key keys (keys.length + 1) 0 keys.length
    insertAll (keys.insertIdx place key) rest

/-- Keys in order, unless two that are compared on the way have none. -/
def sortKeys (keys : List Value) : Except Failure (List Value) := do
  let (run, others) ← firstRun keys
  insertAll run others

/-- The codes of keys and what they stand for, or the kind of the first value that has none. -/
def codes {Code : Type} (codeOf? : Value → Option Code) (entries : List (Value × Value)) :
    List Value → Except Failure (List Code)
  | [] => .ok []
  | key :: rest =>
    let item := (Value.valueAt? key entries).getD .none
    match codeOf? key, codeOf? item with
    | some keyCode, some code =>
      (codes codeOf? entries rest).map fun more => keyCode :: code :: more
    | none, _ => .error (.misuse (.notHashable key.kindName))
    | _, none => .error (.misuse (.notHashable item.kindName))

/-- What a dictionary is hashed by if values have the given codes: the codes of its keys in order,
each with that of its value.  Nothing else of the dictionary goes into its hash. -/
def fingerprintBy {Code : Type} (codeOf? : Value → Option Code) (d : FrozenDict) :
    Except Failure (List Code) := do
  codes codeOf? d.entries (← sortKeys (d.entries.map Prod.fst))

/-- What a dictionary is hashed by. -/
def fingerprint (d : FrozenDict) : Except Failure (List HashCode) := d.fingerprintBy HashCode.of?

/-- The entries of some pairs, whose keys have to be values that can be one. -/
def collect (found : List (Value × Value)) : List (Value × Value) →
    Except Failure (List (Value × Value))
  | [] => .ok found
  | (key, item) :: rest => do
    Argument.expectKey key
    collect (Value.storeEntry found key item) rest

/-- The dictionary of some pairs, all of whose values have to have a code. -/
def ofPairsBy {Code : Type} (codeOf? : Value → Option Code) (pairs : List (Value × Value)) :
    Except Failure FrozenDict := do
  let d : FrozenDict := ⟨← collect [] pairs⟩
  let _ ← d.fingerprintBy codeOf?
  pure d

/-- The dictionary of some pairs, all of whose values have to have a hash code. -/
def ofPairs (pairs : List (Value × Value)) : Except Failure FrozenDict :=
  ofPairsBy HashCode.of? pairs

/-- Whether two dictionaries have the same keys with equal values. -/
def equal (a b : FrozenDict) : Bool :=
  match Value.equal (.dict a.entries) (.dict b.entries) with
  | .ok same => same
  | .error _ => false

/-- Whether two dictionaries have the same hash. -/
def sameHash (a b : FrozenDict) : Bool :=
  match a.fingerprint, b.fingerprint with
  | .ok x, .ok y => x == y
  | _, _ => false

/-- Every attempt to change a dictionary fails. -/
def change (_ : FrozenDict) : Except Failure Unit := .error (.misuse .readOnly)

end FrozenDict

end ShaderCompose
