import ShaderCompose.Failure
import ShaderCompose.Template.Eval
import ShaderCompose.Template.Plan

/-!
# Filling in templates

Text is copied, prints are replaced by the text of their value, and blocks choose, repeat and bind.
What is bound in a loop or a captured block is forgotten behind it; what is bound in a choice stays.
-/

set_option autoImplicit false

namespace ShaderCompose.Template

/-- The names that are bound to values by the caller. -/
abbrev Bindings := List (Text × Value)

/-- The items that are to be bound to several patterns. -/
def unpack (expected : Nat) (v : Value) : Result (List Value) := do
  let items ← match itemsOf v with
    | .error (.unsupported (.notIterable kind)) => refuse (.cannotUnpack kind)
    | result => result
  if items.length < expected then refuse (.tooFewValues expected items.length)
  else if expected < items.length then refuse (.tooManyValues expected)
  else pure items

mutual

/-- The frame with a value bound to a pattern. -/
def bindPattern (f : Frame) (v : Value) : Pattern → Result Frame
  | .name n _ => .ok (f.set n v)
  | .member _ _ => refuse .notNamespace
  | .several parts => do bindPatterns f (← unpack parts.length v) parts

/-- The frame with values bound to patterns, one by one. -/
def bindPatterns (f : Frame) (values : List Value) : List Pattern → Result Frame
  | [] => .ok f
  | p :: rest =>
    match values with
    | [] => .ok f
    | v :: more => do bindPatterns (← bindPattern f v p) more rest

end

/-- The frames with a value bound to a pattern in the innermost one. -/
def bindIn (frames : Frames) (v : Value) (p : Pattern) : Result Frames :=
  match frames with
  | [] => .ok []
  | f :: outer => (bindPattern f v p).map (· :: outer)

/-- Refuses a pattern that binds a member, since only names can be bound. -/
def checkMembers (p : Pattern) : Result Unit :=
  if p.mentions.any fun
    | .used _ => true
    | .bound _ _ => false
  then refuse .notNamespace else .ok ()

/-- The frame of a loop at one of its items. -/
def enterLoop (globals : Bindings) (outer : Frames) (locals : List Local) (p : Pattern)
    (state item : Value) : Result Frame := do
  let f ← bindPattern ⟨[], []⟩ item p
  let f := if locals.any (·.name == loopName) then f.set loopName state else f
  pure (f.enter globals outer locals)

/-- Whether the condition of a loop holds for an item. -/
def isKept (globals : Bindings) (outer : Frames) (p : Pattern)
    (condition : Option (List Local × Expr)) (item : Value) : Result Bool :=
  match condition with
  | none => .ok true
  | some (locals, e) => do
    let f ← bindPattern ⟨[], []⟩ item p
    truthOf (← eval (f.enter globals outer locals :: outer) e)

/-- The items for which the condition of a loop holds, up to the first for which it fails. -/
def keptItems (keeps : Value → Result Bool) : List Value → List Value × Option RenderError
  | [] => ([], none)
  | v :: rest =>
    match keeps v with
    | .error e => ([], some e)
    | .ok kept =>
      let (more, failure) := keptItems keeps rest
      (if kept then v :: more else more, failure)

/-- The texts of the body of a loop for some items, the first of them at the given place. -/
def eachItem (run : Value → Value → Result Text) (length index : Nat) (previous : List Value) :
    List Value → Result Text
  | [] => .ok []
  | item :: rest => do
    let text ← run (.loop index length previous (rest.take 1)) item
    let more ← eachItem run length (index + 1) [item] rest
    pure (text ++ more)

/-- A text sent through filters. -/
def filtered (frames : Frames) (v : Value) : List FilterCall → Result Value
  | [] => .ok v
  | f :: rest => do filtered frames (← eval frames (.filter (.const v) f.name f.args f.line)) rest

mutual

/-- The text of a statement, and the frames behind it. -/
def runAction (globals : Bindings) (b : Frames) : Action → Result (Text × Frames)
  | .text t => .ok (t, b)
  | .print e => do
    let text ← printed (← eval b e)
    pure (text, b)
  | .choose condition yes no => do
    if ← truthOf (← eval b condition) then runActions globals b yes
    else runActions globals b no
  | .each p items condition locals body otherLocals otherwise => do
    let all ← itemsOf (← eval b items)
    let (values, failure) := keptItems (isKept globals b p condition) all
    let text ← eachItem (fun state item => do
        let f ← enterLoop globals b locals p state item
        pure (← runActions globals (f :: b) body).1)
      values.length 0 [] values
    match failure with
    | some e => throw e
    | none =>
      if values.isEmpty then
        let f := Frame.enter globals b otherLocals ⟨[], []⟩
        pure ((← runActions globals (f :: b) otherwise).1, b)
      else pure (text, b)
  | .bind p e => do
    checkMembers p
    pure ([], ← bindIn b (← eval b e) p)
  | .capture p filters locals body => do
    let inner := Frame.enter globals b locals ⟨[], []⟩ :: b
    let (text, inner) ← runActions globals inner body
    let v ← filtered inner (.text text) filters
    pure ([], ← bindIn b v p)

/-- The text of statements, and the frames behind them. -/
def runActions (globals : Bindings) (b : Frames) : List Action → Result (Text × Frames)
  | [] => .ok ([], b)
  | action :: rest => do
    let (text, b) ← runAction globals b action
    let (more, b) ← runActions globals b rest
    pure (text ++ more, b)

end

/-- The text of a template, filled in with variables. -/
def Plan.fillIn (p : Plan) (vars : Bindings) : Result Text := do
  let globals := vars ++ standardNames
  let start := (Frame.mk [] []).set selfName .template
  let (text, _) ← runActions globals [start.enter globals [] p.locals] p.actions
  pure text

/-- The failure of a template, in words. -/
def failure (message : Text) : Failure :=
  .effect (.template ("Cannot compose shader: ".toList ++ message))

/-- Why a template could not be filled in, as a failure of the library. -/
def failureOf : RenderError → Failure
  | .grammar e => failure (e.message ++ " (line ".toList ++ Text.ofNat e.line ++ [')'])
  | .gap message => failure message
  | .unsupported e => .evaluation e

/-- A text filled in with the given variables. -/
def render (code : Text) (vars : Bindings) : Except Failure Text :=
  match plan code with
  | .error e => .error (failureOf e)
  | .ok p =>
    if vars.any (·.1 == selfName) then
      .error (.misuse (.call (.repeated "Template.render".toList selfName)))
    else match p.fillIn vars with
      | .ok text => .ok text
      | .error e => .error (failureOf e)

/-- Refuses variables one of which is called like the text that is filled in. -/
def checkNames (vars : Bindings) : Except Failure Unit :=
  if vars.any (·.1 == "code".toList) then
    .error (.misuse (.call (.repeated "apply_templating".toList "code".toList)))
  else .ok ()

/-- A text filled in with the given variables, none of which may be called like the text itself. -/
def fill (code : Text) (vars : Bindings) : Except Failure Text := do
  checkNames vars
  render code vars

/-- An argument, which has to be a text, filled in with the given variables. -/
def fillArgument (code : Value) (vars : Bindings) : Except Failure Text := do
  checkNames vars
  match code with
  | .text t => render t vars
  | _ => throw (.misuse .notTemplate)

end ShaderCompose.Template
