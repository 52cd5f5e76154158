import ShaderCompose.Template.Member
import ShaderCompose.Template.Numeral

/-!
# Filters and tests

The filters that change a value and the tests that ask about one.
-/

set_option autoImplicit false

namespace ShaderCompose.Template

/-- The arguments of a call: those by position, and those by name. -/
structure Arguments where
  plain : List Value
  named : List (Text × Value)

/-- The filters there are. -/
inductive Filter where
  | upper | lower | length | join | first | last | default | int | float
deriving DecidableEq, Repr

/-- The filter with a name. -/
def Filter.named? (n : Text) : Option Filter :=
  [("upper".toList, Filter.upper), ("lower".toList, .lower), ("length".toList, .length),
   ("count".toList, .length), ("join".toList, .join), ("first".toList, .first),
   ("last".toList, .last), ("default".toList, .default), ("d".toList, .default),
   ("int".toList, .int), ("float".toList, .float)].lookup n

/-- The parameters of a filter, the first of which is its input. -/
def Filter.signature : Filter → Signature
  | .upper => ⟨"do_upper", [⟨"s", false⟩]⟩
  | .lower => ⟨"do_lower", [⟨"s", false⟩]⟩
  | .length => ⟨"len", [⟨"obj", false⟩]⟩
  | .join =>
    ⟨"sync_do_join",
      [⟨"eval_ctx", false⟩, ⟨"value", false⟩, ⟨"d", true⟩, ⟨"attribute", true⟩]⟩
  | .first => ⟨"sync_do_first", [⟨"environment", false⟩, ⟨"seq", false⟩]⟩
  | .last => ⟨"do_last", [⟨"environment", false⟩, ⟨"seq", false⟩]⟩
  | .default =>
    ⟨"do_default", [⟨"value", false⟩, ⟨"default_value", true⟩, ⟨"boolean", true⟩]⟩
  | .int => ⟨"do_int", [⟨"value", false⟩, ⟨"default", true⟩, ⟨"base", true⟩]⟩
  | .float => ⟨"do_float", [⟨"value", false⟩, ⟨"default", true⟩]⟩

/-- Whether a filter is also passed the surroundings of the template, before its input. -/
def Filter.takesSurroundings : Filter → Bool
  | .join | .first | .last => true
  | _ => false

/-- The arguments of a filter behind its input, one for each parameter. -/
def Filter.options (f : Filter) (input : Value) (args : Arguments) :
    Result (List (Option Value)) :=
  match f with
  | .length =>
    if !args.named.isEmpty then refuse (.call (.unnamed "len".toList))
    else if !args.plain.isEmpty then
      refuse (.call (.exactly "len".toList 1 (args.plain.length + 1)))
    else .ok []
  | _ =>
    let lead := if f.takesSurroundings then [Value.none, input] else [input]
    (fitting (f.signature.bind (lead ++ args.plain) args.named)).map (·.drop lead.length)

/-- The tests there are. -/
inductive Test where
  | defined | undefined | isNone
deriving DecidableEq, Repr

/-- The test with a name. -/
def Test.named? (n : Text) : Option Test :=
  [("defined".toList, Test.defined), ("undefined".toList, .undefined),
   ("none".toList, .isNone)].lookup n

/-- The parameters of a test. -/
def Test.signature : Test → Signature
  | .defined => ⟨"test_defined", [⟨"value", false⟩]⟩
  | .undefined => ⟨"test_undefined", [⟨"value", false⟩]⟩
  | .isNone => ⟨"test_none", [⟨"value", false⟩]⟩

/-- The whole part of a double that has one. -/
def wholePart? (x : Float) : Option Int :=
  (Decimal.fractionOf? x).map fun (num, den) => Int.tdiv num den

/-- The whole number that a text spells in a base, or else the whole part of the double that it
spells. -/
def wholeOfText? (base : Value) (t : Text) : Option Int :=
  let spelled := match base.asInt? with
    | some b => if b = 0 ∨ (2 ≤ b ∧ b ≤ 36) then Numeral.whole? b.toNat t else none
    | none => none
  match spelled with
  | some n => some n
  | none => (Numeral.double? t).bind wholePart?

/-- A value as a whole number, if it has one. -/
def toWhole? (base : Value) (v : Value) : Result (Option Int) := do
  noGap v
  match v with
  | .int n => pure (some n)
  | .bool b => pure (some (if b then 1 else 0))
  | .float x => if x.isInf then refuse .infinityToInteger else pure (wholePart? x)
  | .text t => pure (wholeOfText? base t)
  | _ => pure none

/-- A value as a double, if it is one. -/
def toDouble? (v : Value) : Result (Option Float) := do
  noGap v
  match v with
  | .text t => pure (Numeral.double? t)
  | .complex _ _ => pure none
  | _ =>
    match numberOf? v with
    | some n => n.toDouble.map some
    | none => pure none

/-- The items of a value that can be gone through backwards. -/
def reversible (v : Value) : Result (List Value) :=
  match itemsOf v with
  | .error (.unsupported (.notIterable kind)) => refuse (.notReversible kind)
  | result => result

/-- The steps from a value to what a dotted path leads to. -/
def pathSteps : Value → List Value
  | .text path =>
    (Text.pieces '.' path).map fun piece =>
      if !piece.isEmpty && piece.all Text.isDigit then .int (Text.numberOf piece) else .text piece
  | v => [v]

/-- What a path leads to from a value. -/
def follow (v : Value) : List Value → Result Value
  | [] => .ok v
  | step :: rest => do follow (← itemOf v step) rest

/-- What a path leads to from every value. -/
def followAll (path : List Value) : List Value → Result (List Value)
  | [] => .ok []
  | v :: rest => do
    let first ← follow v path
    let more ← followAll path rest
    pure (first :: more)

/-- An argument that may be left out or have no value. -/
def given? : Option Value → Option Value
  | some .none => none
  | other => other

/-- What a filter makes of a value, with the arguments of its parameters. -/
def Filter.run (f : Filter) (input : Value) (options : List (Option Value)) : Result Value := do
  let option (place : Nat) : Option Value := (options[place]?).getD none
  match f with
  | .upper => pure (.text (Text.upper (← printed input)))
  | .lower => pure (.text (Text.lower (← printed input)))
  | .length => pure (.int (← lengthOf input))
  | .join =>
    let separator ← printed ((option 0).getD (.text []))
    let items ← itemsOf input
    let items ← match given? (option 1) with
      | some path => followAll (pathSteps path) items
      | none => pure items
    pure (.text (Text.joinWith separator (← printedItems items)))
  | .first =>
    match ← itemsOf input with
    | v :: _ => pure v
    | [] => pure (.gap ⟨"No first item, sequence was empty.".toList, false⟩)
  | .last =>
    match (← reversible input).getLast? with
    | some v => pure v
    | none => pure (.gap ⟨"No last item, sequence was empty.".toList, false⟩)
  | .default =>
    let fallback := (option 0).getD (.text [])
    match input with
    | .gap _ => pure fallback
    | _ =>
      match option 1 with
      | some flag => if (← truthOf flag) && !input.truth then pure fallback else pure input
      | none => pure input
  | .int =>
    let found ← toWhole? ((option 1).getD (.int 10)) input
    pure ((found.map Value.int).getD ((option 0).getD (.int 0)))
  | .float =>
    let found ← toDouble? input
    pure ((found.map Value.float).getD ((option 0).getD (.float 0)))

/-- What a filter makes of a value. -/
def Filter.apply (f : Filter) (input : Value) (args : Arguments) : Result Value := do
  f.run input (← f.options input args)

/-- The answer of a test about a value. -/
def Test.holds (t : Test) (input : Value) : Bool :=
  match t, input with
  | .defined, .gap _ => false
  | .defined, _ => true
  | .undefined, .gap _ => true
  | .undefined, _ => false
  | .isNone, .none => true
  | .isNone, _ => false

/-- The answer of a test about a value, which takes no arguments. -/
def Test.apply (t : Test) (input : Value) (args : Arguments) : Result Value := do
  let _ ← fitting (t.signature.bind (input :: args.plain) args.named)
  pure (.bool (t.holds input))

end ShaderCompose.Template
