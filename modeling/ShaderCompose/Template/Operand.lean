import ShaderCompose.Template.Number
import ShaderCompose.Value.Display

/-!
# Values as operands

What every operation of a template asks of its operands: that they are no gaps, that they can be
gone through, counted, printed, or used as keys.
-/

set_option autoImplicit false

namespace ShaderCompose.Template

/-- Refuses a gap of either kind. -/
def noGap : Value → Result Unit
  | .gap g => .error (.gap g.message)
  | _ => .ok ()

/-- Refuses a strict gap. -/
def noStrictGap : Value → Result Unit
  | .gap g => if g.lenient then .ok () else .error (.gap g.message)
  | _ => .ok ()

/-- Whether a value counts as true. -/
def truthOf (v : Value) : Result Bool := do
  noStrictGap v
  pure v.truth

/-- The items that a value goes through in a loop. -/
def itemsOf : Value → Result (List Value)
  | .list items => .ok items
  | .tuple items => .ok items
  | .dict entries => .ok (entries.map (·.1))
  | .view part entries => .ok (Value.viewItems part entries)
  | .text t => .ok (t.map fun c => .text [c])
  | .bytes data => .ok (data.map fun byte => .int byte.toNat)
  | .range start stop step => .ok ((Value.rangeItems start stop step).map .int)
  | .gap g => if g.lenient then .ok [] else .error (.gap g.message)
  | v => refuse (.notIterable v.kindName)

/-- The most items a sequence can have. -/
def mostItems : Nat := Decimal.twoTo 63 - 1

/-- The most items of a sequence that there is room for. -/
def mostHeld : Nat := Decimal.twoTo 36

/-- How many items a value has. -/
def lengthOf : Value → Result Nat
  | .list items => .ok items.length
  | .tuple items => .ok items.length
  | .dict entries => .ok entries.length
  | .view _ entries => .ok entries.length
  | .text t => .ok t.length
  | .bytes data => .ok data.length
  | .range start stop step =>
    let length := Value.rangeLength start stop step
    if mostItems < length then refuse .tooLargeToCount else .ok length
  | .loop _ length _ _ => .ok length
  | .gap g => if g.lenient then .ok 0 else .error (.gap g.message)
  | v => refuse (.noLength v.kindName)

/-- A value as it is shown in quotes or inside a collection. -/
def inspected (v : Value) : Result Text :=
  if v.showsHuge then refuse .tooManyDigits else .ok v.inspect

/-- A value as it is printed. -/
def printed (v : Value) : Result Text := do
  noStrictGap v
  if v.showsHuge then refuse .tooManyDigits else pure v.display

/-- The texts of values. -/
def printedItems : List Value → Result (List Text)
  | [] => .ok []
  | v :: rest => do pure ((← printed v) :: (← printedItems rest))

mutual

/-- Refuses a value that cannot be a key. -/
def hashable : Value → Result Unit
  | .list _ => refuse (.notHashable "list".toList)
  | .dict _ => refuse (.notHashable "dict".toList)
  | .slice _ _ _ => refuse (.notHashable "slice".toList)
  | .view .keys _ => refuse (.notHashable "dict_keys".toList)
  | .view .items _ => refuse (.notHashable "dict_items".toList)
  | .tuple items => allHashable items
  | .gap g => if g.lenient then .ok () else .error (.gap g.message)
  | _ => .ok ()

/-- Refuses values one of which cannot be a key. -/
def allHashable : List Value → Result Unit
  | [] => .ok ()
  | item :: rest => do
    hashable item
    allHashable rest

end

/-- The dictionary of some pairs. -/
def dictOf : List (Value × Value) → List (Value × Value) → Result (List (Value × Value))
  | found, [] => .ok found
  | found, (key, item) :: rest => do
    hashable key
    dictOf (Value.storeEntry found key item) rest

end ShaderCompose.Template
