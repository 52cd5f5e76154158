import ShaderCompose.Template.Constant
import ShaderCompose.Template.Scope

/-!
# The values of expressions

Names are looked up in the frames in force; one that has no value there is a gap.  Both operands of
an operation are evaluated before it; conjunctions, disjunctions and choices evaluate only what they
need.
-/

set_option autoImplicit false

namespace ShaderCompose.Template

/-- The value of a name, or the gap in its place. -/
def valueOf (frames : Frames) (n : Text) : Value :=
  (Frames.get? frames n).getD (.gap ⟨Text.quoted n ++ " is undefined".toList, false⟩)

/-- The gap left by a choice without an alternative. -/
def noAlternative (line : Nat) : Value :=
  .gap ⟨"the inline if-expression on line ".toList ++ Text.ofNat line ++
    " evaluated to false and no else section was defined.".toList, true⟩

mutual

/-- The first number in a value that no literal stands for: an infinite one, or one that is not a
number. -/
def unwritable? : Value → Option Text
  | .float x =>
    if x.isNaN then some "nan".toList else if x.isInf then some "inf".toList else none
  | .list items => firstUnwritable? items
  | .tuple items => firstUnwritable? items
  | .dict entries => firstUnwritableEntry? entries
  | _ => none

/-- The first such number in some values. -/
def firstUnwritable? : List Value → Option Text
  | [] => none
  | v :: rest =>
    match unwritable? v with
    | some n => some n
    | none => firstUnwritable? rest

/-- The first such number in some entries. -/
def firstUnwritableEntry? : List (Value × Value) → Option Text
  | [] => none
  | (key, v) :: rest =>
    match unwritable? key with
    | some n => some n
    | none =>
      match unwritable? v with
      | some n => some n
      | none => firstUnwritableEntry? rest

end

/-- The value of a constant, which has to have a literal. -/
def constantValue (v : Value) : Result Value :=
  match unwritable? v with
  | some n => refuse (.noLiteral n)
  | none => .ok v

/-- A negative number without its sign. -/
def unsigned? : Value → Option Value
  | .int n => if n < 0 then some (.int (-n)) else none
  | .float x => if isNegative x && !x.isNaN then some (.float (-x)) else none
  | _ => none

/-- The result of an operation.  The sign of a literal in front of a power belongs to the power. -/
def applyArith (op : Arith) (left : Expr) (l r : Value) : Result Value :=
  match op, left with
  | .pow, .const c =>
    match unsigned? c with
    | some base => do negate (← arith .pow base r)
    | none => arith .pow l r
  | _, _ => arith op l r

mutual

/-- The value of an expression. -/
def eval (b : Frames) : Expr → Result Value
  | .const v => constantValue v
  | .name n => .ok (valueOf b n)
  | .list items => do pure (.list (← evalItems b items))
  | .tuple items => do pure (.tuple (← evalItems b items))
  | .dict entries => do pure (.dict (← dictOf [] (← evalEntries b entries)))
  | .attribute object member => do memberOf (← eval b object) member
  | .item object (.slice start stop step) => do
    let o ← eval b object
    let first ← eval b start
    let last ← eval b stop
    let by_ ← eval b step
    stretchOf o first last by_
  | .item object index => do
    let o ← eval b object
    let i ← eval b index
    itemOf o i
  | .slice start stop step => do
    pure (.slice (← eval b start) (← eval b stop) (← eval b step))
  | .call function args => do
    let f ← eval b function
    let values ← evalArguments b ⟨[], []⟩ args
    callValue f values
  | .filter input filterName args _ => do
    let v ← eval b input
    let values ← evalArguments b ⟨[], []⟩ args
    match Filter.named? filterName with
    | some f => f.apply v values
    | none => refuse (.noFilter filterName)
  | .test input testName args _ => do
    let v ← eval b input
    let values ← evalArguments b ⟨[], []⟩ args
    match Test.named? testName with
    | some t => t.apply v values
    | none => refuse (.noTest testName)
  | .neg e => do negate (← eval b e)
  | .pos e => do affirm (← eval b e)
  | .not e => do pure (.bool (!(← truthOf (← eval b e))))
  | .arith op left right => do
    let l ← eval b left
    let r ← eval b right
    applyArith op left l r
  | .concat items => do joined (← evalItems b items)
  | .compare first others => do evalComparisons b (← eval b first) others
  | .and left right => do
    let l ← eval b left
    if ← truthOf l then eval b right else pure l
  | .or left right => do
    let l ← eval b left
    if ← truthOf l then pure l else eval b right
  | .cond condition yes no line => do
    if ← truthOf (← eval b condition) then eval b yes
    else evalFirst b (noAlternative line) no

/-- The values of expressions from left to right. -/
def evalItems (b : Frames) : List Expr → Result (List Value)
  | [] => .ok []
  | e :: rest => do
    let v ← eval b e
    let more ← evalItems b rest
    pure (v :: more)

/-- The keys and values of entries from left to right. -/
def evalEntries (b : Frames) : List (Expr × Expr) → Result (List (Value × Value))
  | [] => .ok []
  | (key, e) :: rest => do
    let k ← eval b key
    let v ← eval b e
    let more ← evalEntries b rest
    pure ((k, v) :: more)

/-- The values of arguments, added to those found so far. -/
def evalArguments (b : Frames) (found : Arguments) : List (Passing × Expr) → Result Arguments
  | [] => .ok found
  | (passing, e) :: rest => do
    let more ← found.add passing (← eval b e)
    evalArguments b more rest

/-- The outcome of chained comparisons: the first that does not hold decides. -/
def evalComparisons (b : Frames) (left : Value) : List (Comparison × Expr) → Result Value
  | [] => .ok (.bool true)
  | (op, e) :: rest => do
    let right ← eval b e
    if ← compares op left right then evalComparisons b right rest else pure (.bool false)

/-- The value of the first expression, or a given value if there is none. -/
def evalFirst (b : Frames) (otherwise : Value) : List Expr → Result Value
  | [] => .ok otherwise
  | e :: _ => eval b e

end

end ShaderCompose.Template
