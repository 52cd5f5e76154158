import ShaderCompose.Template.Format

/-!
# Operations on template values

Numbers are computed with; texts and lists can be joined and repeated, and values can be put into a
text.  A gap supports no operation at all.
-/

set_option autoImplicit false

namespace ShaderCompose.Template

/-- A list repeated; a negative number counts as zero. -/
def repeated {α : Type} (items : List α) (times : Int) : List α :=
  if items.isEmpty then [] else (List.replicate times.toNat items).flatten

/-- A text or list repeated a number of times.  Texts longer than any sequence can be are refused in
words of their own. -/
def repeat? (sequence count : Value) : Option (Result Value) :=
  let build (length : Nat) (name : Option Text) (make : Int → Value) : Option (Result Value) :=
    some (match count.asInt? with
      | none => refuse (.cannotRepeat count.kindName)
      | some n =>
        if n < -(mostItems : Int) - 1 ∨ (mostItems : Int) < n then refuse .tooLargeForIndex
        else
          let total := length * n.toNat
          if mostItems < total then
            match name with
            | some words => refuse (.tooLong words)
            | none => refuse .outOfMemory
          else if mostHeld < total then refuse .outOfMemory
          else .ok (make n))
  match sequence with
  | .text t => build t.length (some "repeated string is".toList) fun n => .text (repeated t n)
  | .bytes data =>
    build data.length (some "repeated bytes are".toList) fun n => .bytes (repeated data n)
  | .list items => build items.length none fun n => .list (repeated items n)
  | .tuple items => build items.length none fun n => .tuple (repeated items n)
  | _ => none

/-- The result of an operation on two values that are no gaps. -/
def arithPlain (op : Arith) (a b : Value) : Result Value :=
  match numberOf? a, numberOf? b with
  | some x, some y =>
    if needsReal op x y then unsupportedBetween op a b
    else (numberArith op x y).map Number.toValue
  | _, _ =>
    let unsupported : Result Value := unsupportedBetween op a b
    match op with
    | .add =>
      match a, b with
      | .text s, .text t => .ok (.text (s ++ t))
      | .bytes s, .bytes t => .ok (.bytes (s ++ t))
      | .list s, .list t => .ok (.list (s ++ t))
      | .tuple s, .tuple t => .ok (.tuple (s ++ t))
      | .text _, _ | .list _, _ | .tuple _, _ =>
        refuse (.cannotConcatenate a.kindName b.kindName)
      | _, _ => unsupported
    | .mul =>
      match repeat? a b with
      | some result => result
      | none => (repeat? b a).getD unsupported
    | _ => unsupported

/-- The result of an operation on two values.  A text takes the values to be put into it by the
operation of the remainder, and a gap among them need not be an error. -/
def arith (op : Arith) (a b : Value) : Result Value :=
  match op, a with
  | .mod, .text t => formatted t b
  | _, _ => do
    noGap a
    noGap b
    arithPlain op a b

/-- A value with its sign turned. -/
def negate (v : Value) : Result Value := do
  noGap v
  match numberOf? v with
  | some n => pure n.negate.toValue
  | none => refuse (.badOperand "-".toList v.kindName)

/-- A number behind a plus sign. -/
def affirm (v : Value) : Result Value := do
  noGap v
  match numberOf? v with
  | some n => pure n.toValue
  | none => refuse (.badOperand "+".toList v.kindName)

/-- The outcome of comparing values, in which a strict gap is an error. -/
def settled : Value.Outcome → Result Bool
  | .ok b => .ok b
  | .error g => .error (.gap g.message)

/-- Whether two values are equal. -/
def equals (a b : Value) : Result Bool := settled (a.equal b)

/-- Whether a value is among the items of a collection. -/
def isAmong (a : Value) : List Value → Result Bool
  | [] => .ok false
  | b :: rest => do if ← settled (b.equalItem a) then pure true else isAmong a rest

/-- Whether a value is one of the numbers of a range. -/
def isInRange (start stop step : Int) (v : Value) : Result Bool := do
  if Value.rangeLength start stop step = 0 then pure false
  else
    noStrictGap v
    match v.parts? with
    | some (.fraction num den, .fraction 0 _) =>
      pure (Int.fmod num den == 0 && (Value.rangePlace? start stop step (num.fdiv den)).isSome)
    | _ => pure false

/-- Whether a value is in a collection or text. -/
def isIn (a b : Value) : Result Bool :=
  match b with
  | .text t =>
    match a with
    | .text part => .ok (Text.occursIn part t)
    | _ => refuse (.textNeedsText a.kindName)
  | .dict entries | .view .keys entries => do
    hashable a
    pure (Value.valueAt? a entries).isSome
  | .view part entries => isAmong a (Value.viewItems part entries)
  | .list items => isAmong a items
  | .tuple items => isAmong a items
  | .range start stop step => isInRange start stop step a
  | .gap g => if g.lenient then .ok false else .error (.gap g.message)
  | v => refuse (.notContainer v.kindName)

/-- Whether the order of two values is one of those a comparison accepts. -/
def ordered (symbol : String) (accepts : Ordering → Bool) (a b : Value) : Result Bool :=
  match a.order b with
  | .ok (some order) => .ok (accepts order)
  | .ok none => .ok false
  | .error (.gap g) => .error (.gap g.message)
  | .error (.kinds left right) => refuse (.notComparable symbol.toList left right)

/-- The outcome of a comparison. -/
def compares (op : Comparison) (a b : Value) : Result Bool :=
  match op with
  | .eq => equals a b
  | .ne => (equals a b).map not
  | .lt => ordered "<" (· == .lt) a b
  | .le => ordered "<=" (· != .gt) a b
  | .gt => ordered ">" (· == .gt) a b
  | .ge => ordered ">=" (· != .lt) a b
  | .isIn => isIn a b
  | .notIn => (isIn a b).map not

end ShaderCompose.Template
