import ShaderCompose.Template.Constant
import ShaderCompose.Template.Parser
import ShaderCompose.Template.Scope

/-!
# Templates made ready

Before a template is filled in, its constants are worked out, the names of its statements are found,
and it is searched for filters and tests that do not exist.  Inside a choice these are let pass,
since the branch they stand in may never be reached.  The variable of the loop cannot be bound.
-/

set_option autoImplicit false

namespace ShaderCompose.Template

/-- A statement made ready. -/
inductive Action where
  | text (t : Text)
  | print (e : Expr)
  | choose (condition : Expr) (yes no : List Action)
  /-- A repetition, with the names of its condition, of its body, and of what is done instead. -/
  | each (pattern : Pattern) (items : Expr) (condition : Option (List Local × Expr))
      (locals : List Local) (body : List Action)
      (otherLocals : List Local) (otherwise : List Action)
  | bind (pattern : Pattern) (e : Expr)
  | capture (pattern : Pattern) (filters : List FilterCall) (locals : List Local)
      (body : List Action)

/-- A template made ready. -/
structure Plan where
  locals : List Local
  actions : List Action

/-- A flaw of the grammar at a line. -/
def flawAt {α : Type} (message : Text) (line : Nat) : Result α := .error (.grammar ⟨message, line⟩)

/-- The message about a filter or test that does not exist. -/
def unknownName (kind : String) (n : Text) : Text :=
  "No ".toList ++ kind.toList ++ " named ".toList ++ Text.quoted n ++ ['.']

mutual

/-- Looks for unknown filters and tests in an expression, and for constants that cannot be written
down; inside a choice unknown names are let pass. -/
def inspectExpr (inChoice : Bool) : Expr → Result Unit
  | .const v => if v.showsHuge then refuse .tooManyDigits else .ok ()
  | .name _ => .ok ()
  | .list items => inspectAll inChoice items
  | .tuple items => inspectAll inChoice items
  | .dict entries => inspectEntries inChoice entries
  | .attribute object _ => inspectExpr inChoice object
  | .item object index => do
    inspectExpr inChoice object
    inspectExpr inChoice index
  | .slice start stop step => do
    inspectExpr inChoice start
    inspectExpr inChoice stop
    inspectExpr inChoice step
  | .call function args => do
    inspectExpr inChoice function
    inspectArguments inChoice args
  | .filter input filterName args line => do
    if !inChoice && (Filter.named? filterName).isNone then
      flawAt (unknownName "filter" filterName) line
    inspectExpr inChoice input
    inspectArguments inChoice args
  | .test input testName args line => do
    if !inChoice && (Test.named? testName).isNone then
      flawAt (unknownName "test" testName) line
    inspectExpr inChoice input
    inspectArguments inChoice args
  | .neg e => inspectExpr inChoice e
  | .pos e => inspectExpr inChoice e
  | .not e => inspectExpr inChoice e
  | .arith _ left right => do
    inspectExpr inChoice left
    inspectExpr inChoice right
  | .concat items => inspectAll inChoice items
  | .compare first others => do
    inspectExpr inChoice first
    inspectComparisons inChoice others
  | .and left right => do
    inspectExpr inChoice left
    inspectExpr inChoice right
  | .or left right => do
    inspectExpr inChoice left
    inspectExpr inChoice right
  | .cond condition yes no _ => do
    inspectExpr true yes
    inspectExpr true condition
    inspectAll true no

/-- Looks through expressions. -/
def inspectAll (inChoice : Bool) : List Expr → Result Unit
  | [] => .ok ()
  | e :: rest => do
    inspectExpr inChoice e
    inspectAll inChoice rest

/-- Looks through entries. -/
def inspectEntries (inChoice : Bool) : List (Expr × Expr) → Result Unit
  | [] => .ok ()
  | (key, e) :: rest => do
    inspectExpr inChoice key
    inspectExpr inChoice e
    inspectEntries inChoice rest

/-- Looks through arguments. -/
def inspectArguments (inChoice : Bool) : List (Passing × Expr) → Result Unit
  | [] => .ok ()
  | (_, e) :: rest => do
    inspectExpr inChoice e
    inspectArguments inChoice rest

/-- Looks through comparisons. -/
def inspectComparisons (inChoice : Bool) : List (Comparison × Expr) → Result Unit
  | [] => .ok ()
  | (_, e) :: rest => do
    inspectExpr inChoice e
    inspectComparisons inChoice rest

end

/-- An expression folded and looked through. -/
def prepareWhole (inChoice : Bool) (e : Expr) : Result Expr := do
  let ready ← fold e
  inspectExpr inChoice ready
  pure ready

mutual

/-- An expression made ready.  The items of a collection are made ready one after the other. -/
def prepareExpr (inChoice : Bool) : Expr → Result Expr
  | .list items => do pure (.list (← prepareAll inChoice items))
  | .tuple items => do pure (.tuple (← prepareAll inChoice items))
  | .dict entries => do pure (.dict (← prepareEntries inChoice entries))
  | e => prepareWhole inChoice e

/-- Expressions made ready. -/
def prepareAll (inChoice : Bool) : List Expr → Result (List Expr)
  | [] => .ok []
  | e :: rest => do pure ((← prepareExpr inChoice e) :: (← prepareAll inChoice rest))

/-- Entries made ready. -/
def prepareEntries (inChoice : Bool) : List (Expr × Expr) → Result (List (Expr × Expr))
  | [] => .ok []
  | (key, e) :: rest => do
    let k ← prepareExpr inChoice key
    let v ← prepareExpr inChoice e
    pure ((k, v) :: (← prepareEntries inChoice rest))

end

/-- The text that a print always gives, if it does. -/
def constantText? (e : Expr) : Result (Option Text) :=
  match constant e with
  | .ok v =>
    match printed v with
    | .ok t => .ok (some t)
    | .error failure => .error (early failure)
  | .error .waits => .ok none
  | .error (.fails failure) => .error (early failure)

/-- Works out the constants of all prints up to the next statement that is none. -/
def checkPrints : List Node → Result Unit
  | .text _ :: rest => checkPrints rest
  | .print e :: rest => do
    let _ ← constantText? e
    checkPrints rest
  | _ => .ok ()

/-- Whether a statement copies or prints text. -/
def Node.isOutput : Node → Bool
  | .text _ | .print _ => true
  | _ => false

/-- Refuses a filter that does not exist. -/
def checkFilters : List FilterCall → Result Unit
  | [] => .ok ()
  | f :: rest => do
    if (Filter.named? f.name).isNone then flawAt (unknownName "filter" f.name) f.line
    checkFilters rest

/-- Filters whose arguments are made ready. -/
def prepareFilters : List FilterCall → Result (List FilterCall)
  | [] => .ok []
  | f :: rest => do
    let args ← foldArguments f.args
    inspectArguments false args
    pure (⟨f.name, args, f.line⟩ :: (← prepareFilters rest))

/-- Refuses statements that bind the variable of the loop. -/
def refuseLoopBinding (mentions : List Mention) : Result Unit :=
  match boundAt? loopName mentions with
  | some line => flawAt "Can't assign to special loop variable in for-loop target".toList line
  | none => .ok ()

/-- The names of locals, in front of those that are known outside. -/
def within (locals : List Local) (outside : List Text) : List Text :=
  locals.map (·.name) ++ outside

/-- The condition of a loop made ready, with its names. -/
def prepareCondition (outside : List Text) (p : Pattern) :
    Option Expr → Result (Option (List Local × Expr))
  | none => .ok none
  | some e => do
    let ready ← prepareExpr false e
    pure (some (conditionLocals outside p e, ready))

mutual

/-- A statement made ready, among the names that are known where it stands. -/
def prepareNode (known : List Text) (inChoice : Bool) : Node → Result Action
  | .text t => .ok (.text t)
  | .print e => do
    match ← constantText? e with
    | some t => pure (.text t)
    | none => do pure (.print (← prepareExpr inChoice e))
  | .choose condition yes no _ => do
    let c ← prepareExpr true condition
    let y ← prepareNodes known true false yes
    let n ← prepareNodes known true false no
    pure (.choose c y n)
  | .each p items condition body otherwise => do
    let test ← prepareCondition known p condition
    refuseLoopBinding (p.mentions ++ mentionsOfNodes body ++ mentionsOfNodes otherwise)
    let source ← prepareExpr inChoice items
    let locals := loopLocals known p body
    let inner ← prepareNodes (within locals known) false false body
    let otherLocals := blockLocals known otherwise
    let other ← prepareNodes (within otherLocals known) false false otherwise
    pure (.each p source test locals inner otherLocals other)
  | .bind p e => do pure (.bind p (← prepareExpr inChoice e))
  | .capture p filters body => do
    let locals := blockLocals known body
    let inner ← prepareNodes (within locals known) false false body
    checkFilters filters.reverse
    let ready ← prepareFilters filters
    pure (.capture p ready locals inner)

/-- Statements made ready.  At the first of a run of prints, the constants of all of them are worked
out; the flag says whether a run has been entered. -/
def prepareNodes (known : List Text) (inChoice inRun : Bool) : List Node → Result (List Action)
  | [] => .ok []
  | node :: rest => do
    if node.isOutput && !inRun then checkPrints (node :: rest)
    let action ← prepareNode known inChoice node
    pure (action :: (← prepareNodes known inChoice node.isOutput rest))

end

/-- The template in a text, made ready. -/
def plan (code : Text) : Result Plan := do
  let nodes ← parseTokens (tokenize code)
  let locals := templateLocals nodes
  let actions ← prepareNodes (within locals []) false false nodes
  pure ⟨locals, actions⟩

end ShaderCompose.Template
