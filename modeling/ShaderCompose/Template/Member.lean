import ShaderCompose.Template.Arith
import ShaderCompose.Template.MemberTable

/-!
# Members and items

What stands behind a dot or in brackets.  A dot asks for a member first and then for an item,
brackets the other way round.  What is not there is a gap which remembers what was asked for.
-/

set_option autoImplicit false

namespace ShaderCompose.Template

/-- How the owner of a missing member is called in messages. -/
def ownerName : Value → Text
  | .none => "None".toList
  | .loop _ _ _ _ => "jinja2.runtime.LoopContext object".toList
  | .template => "jinja2.runtime.TemplateReference object".toList
  | v => v.kindName ++ " object".toList

/-- The gap left by a missing member. -/
def missingMember (object : Value) (member : Text) : Value :=
  .gap ⟨Text.quoted (ownerName object) ++ " has no attribute ".toList ++ Text.quoted member, false⟩

/-- The gap left by a missing item. -/
def missingItem (object index : Value) : Value :=
  match index with
  | .text member => missingMember object member
  | _ => .gap ⟨ownerName object ++ " has no element ".toList ++ index.inspect, false⟩

/-- The item before or behind the one that a loop is at. -/
def neighbour (description : String) : List Value → Value
  | [] => .gap ⟨description.toList, false⟩
  | v :: _ => v

/-- The members of the loop that is running. -/
def loopMembers (index length : Nat) (previous next : List Value) : List (Text × Value) :=
  [("index".toList, .int (index + 1)), ("index0".toList, .int index),
   ("first".toList, .bool (index = 0)), ("last".toList, .bool (index + 1 = length)),
   ("length".toList, .int length), ("revindex".toList, .int (length - index : Nat)),
   ("revindex0".toList, .int (length - index - 1 : Nat)), ("depth".toList, .int 1),
   ("depth0".toList, .int 0), ("previtem".toList, neighbour "there is no previous item" previous),
   ("nextitem".toList, neighbour "there is no next item" next)]

/-- The members of a value that are values of their own. -/
def dataMembers : Value → List (Text × Value)
  | .bool b =>
    let n : Value := .int (if b then 1 else 0)
    [("real".toList, n), ("imag".toList, .int 0), ("numerator".toList, n),
     ("denominator".toList, .int 1)]
  | .int n =>
    [("real".toList, .int n), ("imag".toList, .int 0), ("numerator".toList, .int n),
     ("denominator".toList, .int 1)]
  | .float x => [("real".toList, .float x), ("imag".toList, .float 0)]
  | .complex re im => [("real".toList, .float re), ("imag".toList, .float im)]
  | .range start stop step =>
    [("start".toList, .int start), ("stop".toList, .int stop), ("step".toList, .int step)]
  | .slice start stop step =>
    [("start".toList, start), ("stop".toList, stop), ("step".toList, step)]
  | .view _ entries => [("mapping".toList, .dict entries)]
  | .loop index length previous next => loopMembers index length previous next
  | .kind name => [("__name__".toList, .text (((Text.pieces '.' name).getLast?).getD []))]
  | .method _ name => [("__name__".toList, .text name)]
  | _ => []

/-- The functions that come with a value, beside those that come with all. -/
def methodNames : Value → List Text
  | .bool _ | .int _ => MemberTable.intMethods
  | .float _ => MemberTable.floatMethods
  | .complex _ _ => MemberTable.complexMethods
  | .text _ => MemberTable.textMethods
  | .bytes _ => MemberTable.bytesMethods
  | .list _ => MemberTable.listMethods
  | .tuple _ => MemberTable.tupleMethods
  | .dict _ => MemberTable.dictMethods
  | .view .values _ => MemberTable.valuesMethods
  | .view _ _ => MemberTable.keysMethods
  | .range _ _ _ => MemberTable.rangeMethods
  | .slice _ _ _ => MemberTable.sliceMethods
  | .loop _ _ _ _ => MemberTable.namesIn "cycle changed"
  | _ => []

/-- The operations that come with a value, beside those that come with all. -/
def operationNames : Value → List Text
  | .none => MemberTable.noneOperations
  | .bool _ | .int _ => MemberTable.intOperations
  | .float _ => MemberTable.floatOperations
  | .complex _ _ => MemberTable.complexOperations
  | .text _ => MemberTable.textOperations
  | .bytes _ => MemberTable.bytesOperations
  | .list _ => MemberTable.listOperations
  | .tuple _ => MemberTable.tupleOperations
  | .dict _ => MemberTable.dictOperations
  | .view .values _ => MemberTable.valuesOperations
  | .view _ _ => MemberTable.keysOperations
  | .range _ _ _ => MemberTable.rangeOperations
  | .method _ _ => MemberTable.methodOperations
  | _ => []

/-- Whether a value cannot be a key because of its kind. -/
def isUnhashable : Value → Bool
  | .list _ | .dict _ | .slice _ _ _ | .view .keys _ | .view .items _ => true
  | _ => false

/-- The member of a value, not counting its items. -/
def attribute? (object : Value) (member : Text) : Option Value :=
  match (dataMembers object).lookup member with
  | some v => some v
  | none =>
    if member = "__class__".toList then some (.kind object.kindName)
    else if member = "__doc__".toList then some .none
    else if member = "__hash__".toList && isUnhashable object then some .none
    else if (methodNames object).contains member || MemberTable.commonMethods.contains member then
      some (.method object member)
    else if (operationNames object).contains member ||
        MemberTable.commonOperations.contains member then
      some (.operation member)
    else none

/-- The place that an index means: negative ones count from the end. -/
def placeOf? (length : Nat) (index : Int) : Option Nat :=
  let place := if index < 0 then index + length else index
  if 0 ≤ place ∧ place < length then some place.toNat else none

/-- The item of a list at an index. -/
def itemAt? {α : Type} (items : List α) (index : Value) : Option α :=
  match index.asInt? with
  | some n => (placeOf? items.length n).bind fun place => items[place]?
  | none => none

/-- The places of a stretch of a sequence. -/
structure Stretch where
  start : Int
  stop : Int
  step : Int
deriving DecidableEq, Repr

/-- A bound of a stretch, moved into a sequence of the given length. -/
def clampBound (length : Nat) (backwards : Bool) (n : Int) : Int :=
  let place := if n < 0 then n + length else n
  if place < 0 then (if backwards then -1 else 0)
  else if (length : Int) ≤ place then (if backwards then (length : Int) - 1 else length)
  else place

/-- A bound as it is given: a whole number, or none. -/
def boundOf : Value → Result (Option Int)
  | .none => .ok none
  | v =>
    match v.asInt? with
    | some n => .ok (some n)
    | none => refuse .badSlice

/-- The stretch of a sequence that bounds stand for. -/
def Stretch.of (length : Nat) (start stop step : Value) : Result Stretch := do
  let by_ := (← boundOf step).getD 1
  if by_ = 0 then refuse .zeroSliceStep
  let first ← boundOf start
  let last ← boundOf stop
  let backwards := decide (by_ < 0)
  let first := match first with
    | some n => clampBound length backwards n
    | none => if backwards then (length : Int) - 1 else 0
  let last := match last with
    | some n => clampBound length backwards n
    | none => if backwards then -1 else length
  pure ⟨first, last, by_⟩

/-- The items of a list in a stretch. -/
def Stretch.pick {α : Type} (s : Stretch) (items : List α) : List α :=
  (Value.rangeItems s.start s.stop s.step).filterMap fun place => items[place.toNat]?

/-- A stretch of a sequence. -/
def stretchOf (object start stop step : Value) : Result Value := do
  match object with
  | .gap g => .error (.gap g.message)
  | .list items => pure (.list ((← Stretch.of items.length start stop step).pick items))
  | .tuple items => pure (.tuple ((← Stretch.of items.length start stop step).pick items))
  | .text t => pure (.text ((← Stretch.of t.length start stop step).pick t))
  | .bytes data => pure (.bytes ((← Stretch.of data.length start stop step).pick data))
  | .range first last by_ =>
    let s ← Stretch.of (Value.rangeLength first last by_) start stop step
    pure (.range (first + s.start * by_) (first + s.stop * by_) (s.step * by_))
  | .dict _ => refuse (.notHashable "slice".toList)
  | _ => refuse (.notSubscriptable object.kindName)

/-- The item of a value at an index or under a key, if it is there. -/
def item? (object index : Value) : Result (Option Value) := do
  match object, index with
  | _, .slice start stop step =>
    match stretchOf object start stop step with
    | .error (.unsupported e) => if e.family = .kind then pure none else refuse e
    | result => result.map some
  | .list items, _ => pure (itemAt? items index)
  | .tuple items, _ => pure (itemAt? items index)
  | .text t, _ => pure ((itemAt? t index).map fun c => Value.text [c])
  | .bytes data, _ => pure ((itemAt? data index).map fun byte => Value.int byte.toNat)
  | .range start stop step, _ =>
    pure (index.asInt?.bind fun n =>
      (placeOf? (Value.rangeLength start stop step) n).map fun place =>
        Value.int (Value.rangeAt start step place))
  | .dict entries, _ =>
    match hashable index with
    | .error (.unsupported _) => pure none
    | .error e => throw e
    | .ok () => pure (Value.valueAt? index entries)
  | _, _ => pure none

/-- The member of a value. -/
def memberOf (object : Value) (member : Text) : Result Value := do
  noGap object
  match attribute? object member with
  | some v => pure v
  | none => pure ((← item? object (.text member)).getD (missingMember object member))

/-- The item of a value at an index or under a key. -/
def itemOf (object index : Value) : Result Value := do
  noGap object
  match ← item? object index with
  | some v => pure v
  | none =>
    match index with
    | .text member => pure ((attribute? object member).getD (missingItem object index))
    | _ => pure (missingItem object index)

end ShaderCompose.Template
