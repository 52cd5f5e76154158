import ShaderCompose.Template.Function

/-!
# Constants

Expressions without names and calls have the same value wherever they stand, so they are worked out
once, before the template is filled in.  Most operations that fail are left alone then, and fail
when they are reached; a few fail at once.
-/

set_option autoImplicit false

namespace ShaderCompose.Template

/-- Why an expression has no constant value: it has to wait, or it fails at once. -/
inductive NotConstant where
  | waits
  | fails (e : RenderError)
deriving DecidableEq, Repr

/-- A constant value, or why there is none. -/
abbrev Constant := Except NotConstant

namespace Constant

/-- A result whose failure is one at once. -/
def now {α : Type} : Result α → Constant α
  | .ok a => .ok a
  | .error e => .error (.fails e)

/-- A constant whose failure waits. -/
def later {α : Type} : Constant α → Constant α
  | .ok a => .ok a
  | .error _ => .error .waits

end Constant

/-- A literal text for every value of a list, one after the other. -/
def joined (items : List Value) : Result Value := do
  pure (.text (← printedItems items).flatten)

/-- The named arguments that the entries of a value stand for. -/
def namedEntries : List (Value × Value) → Result (List (Text × Value))
  | [] => .ok []
  | (.text n, v) :: rest => do pure ((n, v) :: (← namedEntries rest))
  | _ :: _ => refuse (.argumentNeeds [] "keywords must be strings".toList [])

/-- The function that calls what a template calls, as messages name it. -/
def callerName : Text := "jinja2.runtime.Context.call".toList

/-- The arguments with one more. -/
def Arguments.add (a : Arguments) (passing : Passing) (v : Value) : Result Arguments :=
  match passing with
  | .plain => .ok { a with plain := a.plain ++ [v] }
  | .named n => .ok { a with named := a.named ++ [(n, v)] }
  | .items =>
    match itemsOf v with
    | .error (.unsupported (.notIterable kind)) => refuse (.call (.notSequence callerName kind))
    | result => result.map fun items => { a with plain := a.plain ++ items }
  | .entries =>
    match v with
    | .dict entries => (namedEntries entries).map fun more => { a with named := a.named ++ more }
    | _ => refuse (.call (.notMapping callerName v.kindName))

mutual

/-- The constant value of an expression. -/
def constant : Expr → Constant Value
  | .const v => .ok v
  | .name _ => .error .waits
  | .list items => do pure (.list (← constants items))
  | .tuple items => do pure (.tuple (← constants items))
  | .dict entries => do pure (.dict (← constantEntries [] entries))
  | .attribute object member =>
    Constant.later (do Constant.now (memberOf (← constant object) member))
  | .item object index =>
    Constant.later (do
      let o ← constant object
      let i ← constant index
      Constant.now (itemOf o i))
  | .slice start stop step => do
    pure (.slice (← constant start) (← constant stop) (← constant step))
  | .call _ _ => .error .waits
  | .filter input filterName args _ =>
    match Filter.named? filterName with
    | none => .error .waits
    | some f => do
      let a ← constantArguments ⟨[], []⟩ args
      let v ← constant input
      Constant.later (Constant.now (f.apply v a))
  | .test input testName args _ =>
    match Test.named? testName with
    | none => .error .waits
    | some t => do
      let a ← constantArguments ⟨[], []⟩ args
      let v ← constant input
      Constant.later (Constant.now (t.apply v a))
  | .neg e => Constant.later (do Constant.now (negate (← constant e)))
  | .pos e => Constant.later (do Constant.now (affirm (← constant e)))
  | .not e => Constant.later (do pure (.bool (!(← Constant.now (truthOf (← constant e))))))
  | .arith op left right =>
    Constant.later (do
      let l ← constant left
      let r ← constant right
      Constant.now (arith op l r))
  | .concat items => do pure (.text (← constantTexts items))
  | .compare first others => do
    let v ← constant first
    Constant.later (constantComparisons v others)
  | .and left right => do
    let l ← constant left
    if ← Constant.now (truthOf l) then constant right else pure l
  | .or left right => do
    let l ← constant left
    if ← Constant.now (truthOf l) then pure l else constant right
  | .cond condition yes no _ => do
    let c ← constant condition
    if ← Constant.now (truthOf c) then constant yes else firstConstant no

/-- The constant values of expressions. -/
def constants : List Expr → Constant (List Value)
  | [] => .ok []
  | e :: rest => do
    let v ← constant e
    let more ← constants rest
    pure (v :: more)

/-- The dictionary of constant entries, added to those found so far. -/
def constantEntries (found : List (Value × Value)) :
    List (Expr × Expr) → Constant (List (Value × Value))
  | [] => .ok found
  | (key, e) :: rest => do
    let k ← constant key
    let v ← constant e
    Constant.now (hashable k)
    constantEntries (Value.storeEntry found k v) rest

/-- The constant arguments of a filter or test, added to those found so far. -/
def constantArguments (found : Arguments) : List (Passing × Expr) → Constant Arguments
  | [] => .ok found
  | (passing, e) :: rest => do
    let v ← constant e
    let more ← Constant.later (Constant.now (found.add passing v))
    constantArguments more rest

/-- The texts of constants, joined. -/
def constantTexts : List Expr → Constant Text
  | [] => .ok []
  | e :: rest => do
    let t ← Constant.now (printed (← constant e))
    let more ← constantTexts rest
    pure (t ++ more)

/-- The constant outcome of chained comparisons. -/
def constantComparisons (left : Value) : List (Comparison × Expr) → Constant Value
  | [] => .ok (.bool true)
  | (op, e) :: rest => do
    let right ← constant e
    if ← Constant.now (compares op left right) then constantComparisons right rest
    else pure (.bool false)

/-- The constant value of the first expression; where there is none, it has to wait. -/
def firstConstant : List Expr → Constant Value
  | [] => .error .waits
  | e :: _ => constant e

end

mutual

/-- Whether a value has a literal, so that it can take the place of the expression it comes from. -/
def hasLiteral : Value → Bool
  | .none | .bool _ | .int _ | .float _ | .complex _ _ | .text _ | .range _ _ _ => true
  | .list items => allHaveLiterals items
  | .tuple items => allHaveLiterals items
  | .dict entries => entriesHaveLiterals entries
  | _ => false

/-- Whether all values have literals. -/
def allHaveLiterals : List Value → Bool
  | [] => true
  | v :: rest => hasLiteral v && allHaveLiterals rest

/-- Whether the keys and values of all entries have literals. -/
def entriesHaveLiterals : List (Value × Value) → Bool
  | [] => true
  | (key, v) :: rest => hasLiteral key && hasLiteral v && entriesHaveLiterals rest

end

/-- A failure before the template is filled in. -/
def early : RenderError → RenderError
  | .gap message => .unsupported (.earlyGap message)
  | e => e

/-- An expression, or its constant value in its place. -/
def folded (e : Expr) : Result Expr :=
  match constant e with
  | .ok v => .ok (if hasLiteral v then .const v else e)
  | .error .waits => .ok e
  | .error (.fails failure) => .error (early failure)

mutual

/-- An expression with constant values in the place of its parts, the innermost first. -/
def fold : Expr → Result Expr
  | .const v => .ok (.const v)
  | .name n => .ok (.name n)
  | .list items => do folded (.list (← foldAll items))
  | .tuple items => do folded (.tuple (← foldAll items))
  | .dict entries => do folded (.dict (← foldEntries entries))
  | .attribute object member => do folded (.attribute (← fold object) member)
  | .item object index => do folded (.item (← fold object) (← fold index))
  | .slice start stop step => do folded (.slice (← fold start) (← fold stop) (← fold step))
  | .call function args => do folded (.call (← fold function) (← foldArguments args))
  | .filter input filterName args line => do
    folded (.filter (← fold input) filterName (← foldArguments args) line)
  | .test input testName args line => do
    folded (.test (← fold input) testName (← foldArguments args) line)
  | .neg e => do folded (.neg (← fold e))
  | .pos e => do folded (.pos (← fold e))
  | .not e => do folded (.not (← fold e))
  | .arith op left right => do folded (.arith op (← fold left) (← fold right))
  | .concat items => do folded (.concat (← foldAll items))
  | .compare first others => do folded (.compare (← fold first) (← foldComparisons others))
  | .and left right => do folded (.and (← fold left) (← fold right))
  | .or left right => do folded (.or (← fold left) (← fold right))
  | .cond condition yes no line => do
    folded (.cond (← fold condition) (← fold yes) (← foldAll no) line)

/-- Expressions with constant values in the place of their parts. -/
def foldAll : List Expr → Result (List Expr)
  | [] => .ok []
  | e :: rest => do pure ((← fold e) :: (← foldAll rest))

/-- Entries with constant values in the place of their parts. -/
def foldEntries : List (Expr × Expr) → Result (List (Expr × Expr))
  | [] => .ok []
  | (key, e) :: rest => do
    let k ← fold key
    let v ← fold e
    pure ((k, v) :: (← foldEntries rest))

/-- Arguments with constant values in the place of their parts. -/
def foldArguments : List (Passing × Expr) → Result (List (Passing × Expr))
  | [] => .ok []
  | (passing, e) :: rest => do
    let v ← fold e
    pure ((passing, v) :: (← foldArguments rest))

/-- Comparisons with constant values in the place of their parts. -/
def foldComparisons : List (Comparison × Expr) → Result (List (Comparison × Expr))
  | [] => .ok []
  | (op, e) :: rest => do
    let v ← fold e
    pure ((op, v) :: (← foldComparisons rest))

end

end ShaderCompose.Template
