import ShaderCompose.Text.Basic

/-!
# Dynamic values

Callers hand over arguments, settings and template variables as values whose kind is only known
when they are used.  Templates compute with the same values, and also with ranges, functions, the
state of the loop they are in, and gaps: names and members that have no value.
-/

set_option autoImplicit false

namespace ShaderCompose

/-- The absence of a value.  Using a strict gap is an error with the given message; a lenient gap
reads as an empty text. -/
structure Gap where
  message : Text
  lenient : Bool
deriving DecidableEq, Repr

/-- What can be gone through of a dictionary by itself. -/
inductive DictPart where
  | keys
  | values
  | items
deriving DecidableEq, Repr

/-- The name of a part of a dictionary in messages. -/
def DictPart.kindName : DictPart → Text
  | .keys => "dict_keys".toList
  | .values => "dict_values".toList
  | .items => "dict_items".toList

/-- A value whose kind is known only when it is used. -/
inductive Value where
  | none
  | bool (b : Bool)
  | int (n : Int)
  | float (x : Float)
  | complex (re im : Float)
  | text (t : Text)
  | bytes (data : List UInt8)
  | list (items : List Value)
  | tuple (items : List Value)
  /-- Entries in the order in which their keys came up first; no two keys are equal. -/
  | dict (entries : List (Value × Value))
  | view (part : DictPart) (entries : List (Value × Value))
  | range (start stop step : Int)
  /-- A stretch of a sequence; a bound that is left out is no value. -/
  | slice (start stop step : Value)
  /-- The state of a loop: the place of the item it is at, how many there are, and the items before
  and behind it, if there are any. -/
  | loop (index length : Nat) (previous next : List Value)
  /-- A kind of values, which makes values of that kind when it is called. -/
  | kind (name : Text)
  | function (name : Text)
  /-- A function that works on the value it is a member of. -/
  | method (owner : Value) (name : Text)
  /-- A member that stands for an operation, such as addition. -/
  | operation (name : Text)
  /-- The template itself. -/
  | template
  | gap (g : Gap)

instance : Inhabited Value := ⟨.none⟩

namespace Value

/-- The name of a value's kind in messages. -/
def kindName : Value → Text
  | .none => "NoneType".toList
  | .bool _ => "bool".toList
  | .int _ => "int".toList
  | .float _ => "float".toList
  | .complex _ _ => "complex".toList
  | .text _ => "str".toList
  | .bytes _ => "bytes".toList
  | .list _ => "list".toList
  | .tuple _ => "tuple".toList
  | .dict _ => "dict".toList
  | .view part _ => part.kindName
  | .range _ _ _ => "range".toList
  | .slice _ _ _ => "slice".toList
  | .loop _ _ _ _ => "LoopContext".toList
  | .kind _ => "type".toList
  | .function _ => "function".toList
  | .method _ _ => "builtin_function_or_method".toList
  | .operation _ => "method-wrapper".toList
  | .template => "TemplateReference".toList
  | .gap g => if g.lenient then "Undefined".toList else "StrictUndefined".toList

/-- How many numbers a range holds. -/
def rangeLength (start stop step : Int) : Nat :=
  if 0 < step then ((stop - start + step - 1).fdiv step).toNat
  else if step < 0 then ((start - stop - step - 1).fdiv (-step)).toNat
  else 0

/-- The number at a place of a range. -/
def rangeAt (start step : Int) (place : Nat) : Int := start + step * (place : Int)

/-- The numbers of a range. -/
def rangeItems (start stop step : Int) : List Int :=
  (List.range (rangeLength start stop step)).map (rangeAt start step)

/-- The place of a number in a range. -/
def rangePlace? (start stop step n : Int) : Option Nat :=
  if step = 0 ∨ (n - start).fmod step ≠ 0 then Option.none
  else
    let place := (n - start).fdiv step
    if 0 ≤ place ∧ place < rangeLength start stop step then some place.toNat else Option.none

/-- What stands in a part of a dictionary. -/
def viewItems (part : DictPart) (entries : List (Value × Value)) : List Value :=
  entries.map fun (key, item) =>
    match part with
    | .keys => key
    | .values => item
    | .items => .tuple [key, item]

/-- Whether a value counts as true: zero, the empty text and the empty collection do not. -/
def truth : Value → Bool
  | .none => false
  | .bool b => b
  | .int n => n != 0
  | .float x => x != 0
  | .complex re im => re != 0 || im != 0
  | .text t => !t.isEmpty
  | .bytes data => !data.isEmpty
  | .list items => !items.isEmpty
  | .tuple items => !items.isEmpty
  | .dict entries => !entries.isEmpty
  | .view _ entries => !entries.isEmpty
  | .range start stop step => rangeLength start stop step != 0
  | .gap _ => false
  | _ => true

/-- The integer a value counts as: an integer itself, or a truth value as zero or one. -/
def asInt? : Value → Option Int
  | .int n => some n
  | .bool b => some (if b then 1 else 0)
  | _ => Option.none

end Value

end ShaderCompose
