import ShaderCompose.Template.Filter

/-!
# Calls of functions

The functions that every template can call, and the functions that values have as members.
-/

set_option autoImplicit false

namespace ShaderCompose.Template

/-- The names that have a value in every template, unless a variable of that name is given. -/
def standardNames : List (Text × Value) :=
  [("range".toList, .kind "range".toList), ("dict".toList, .kind "dict".toList),
   ("lipsum".toList, .function "generate_lorem_ipsum".toList),
   ("cycler".toList, .kind "jinja2.utils.Cycler".toList),
   ("joiner".toList, .kind "jinja2.utils.Joiner".toList),
   ("namespace".toList, .kind "jinja2.utils.Namespace".toList)]

/-- A value that has to be a whole number. -/
def wholeArgument (v : Value) : Result Int :=
  match v.asInt? with
  | some n => .ok n
  | none => refuse (.notInteger v.kindName)

/-- The range with the given bounds. -/
def makeRange (args : Arguments) : Result Value :=
  if !args.named.isEmpty then refuse (.call (.unnamed "range".toList))
  else match args.plain with
    | [] => refuse (.call (.atLeast "range".toList 1 0))
    | [stop] => do pure (.range 0 (← wholeArgument stop) 1)
    | [start, stop] => do pure (.range (← wholeArgument start) (← wholeArgument stop) 1)
    | [start, stop, step] => do
      let first ← wholeArgument start
      let last ← wholeArgument stop
      let by_ ← wholeArgument step
      if by_ = 0 then refuse .zeroStep else pure (.range first last by_)
    | many => refuse (.call (.atMost "range".toList 3 many.length))

/-- The entries that some items stand for, which have to be pairs. -/
def pairsOf (place : Nat) : List Value → Result (List (Value × Value))
  | [] => .ok []
  | item :: rest => do
    let parts ← match itemsOf item with
      | .error (.unsupported (.notIterable _)) => refuse (.badEntry place)
      | result => result
    match parts with
    | [key, v] => do
      let more ← pairsOf (place + 1) rest
      pure ((key, v) :: more)
    | _ => refuse (.badEntryLength place parts.length)

/-- The dictionary made from another one or from pairs, and from named arguments. -/
def makeDict (args : Arguments) : Result Value := do
  let first ← match args.plain with
    | [] => pure []
    | [.dict entries] => pure entries
    | [v] => do dictOf [] (← pairsOf 0 (← itemsOf v))
    | many => refuse (.call (.atMost "dict".toList 1 many.length))
  let entries ← dictOf first (args.named.map fun (n, v) => (.text n, v))
  pure (.dict entries)

/-- Whether two texts meet at an end. -/
def touches (atEnd : Bool) (t part : Text) : Bool :=
  if atEnd then Text.startsWith t.reverse part.reverse else Text.startsWith t part

/-- Whether a text starts or ends with one of the texts that an argument holds. -/
def touchesAny (function : String) (atEnd : Bool) (t : Text) (v : Value) : Result Value :=
  match v with
  | .text part => .ok (.bool (touches atEnd t part))
  | .tuple parts => .ok (.bool (parts.any fun
      | .text part => touches atEnd t part
      | _ => false))
  | _ => refuse (.argumentNeeds function.toList
      " first arg must be str or a tuple of str, not ".toList v.kindName)

/-- A text without the given characters, or without blanks, at its ends. -/
def strippedText (start finish : Bool) (chars : Option Text) (t : Text) : Text :=
  let drop (c : Char) : Bool := match chars with
    | some cs => cs.contains c
    | none => Text.isBlank c
  let t := if start then t.dropWhile drop else t
  if finish then Text.dropEndWhile drop t else t

/-- A text without what is stripped from its ends. -/
def strip (function : String) (start finish : Bool) (t : Text) (args : List Value) : Result Value :=
  match args with
  | [] | [.none] => .ok (.text (strippedText start finish none t))
  | [.text chars] => .ok (.text (strippedText start finish (some chars) t))
  | [_] => refuse (.argumentNeeds function.toList " arg must be None or str".toList [])
  | many => refuse (.call (.atMost function.toList 1 many.length))

/-- The place at which one text first occurs in another. -/
def placeIn? (part : Text) (t : Text) : Option Nat :=
  (List.range (t.length + 1)).find? fun place => Text.startsWith (t.drop place) part

/-- The pieces of a text between the occurrences of another one, which is not empty.  The first
number bounds the steps, the second one the cuts. -/
def cutAt (separator : Text) : Nat → Nat → Text → List Text
  | steps + 1, cuts + 1, t =>
    match placeIn? separator t with
    | some place => t.take place :: cutAt separator steps cuts (t.drop (place + separator.length))
    | none => [t]
  | _, _, t => [t]

/-- The words of a text. -/
def wordsOf : Nat → Nat → Text → List Text
  | steps + 1, cuts + 1, t =>
    match Text.stripStart t with
    | [] => []
    | body =>
      let rest := body.dropWhile fun c => !Text.isBlank c
      body.takeWhile (fun c => !Text.isBlank c) :: wordsOf steps cuts rest
  | _, _, t =>
    match Text.stripStart t with
    | [] => []
    | body => [body]

/-- How often a text may be cut; a negative number sets no bound. -/
def cutLimit (t : Text) (n : Int) : Nat := if n < 0 then t.length + 1 else n.toNat

/-- A text with every occurrence of another one replaced, the first ones if a number is given. -/
def replaced (t old new : Text) (limit : Int) : Text :=
  let most := cutLimit t limit
  if old.isEmpty then
    if most = 0 then t
    else if t.length < most then
      new ++ t.flatMap fun c => c :: new
    else (t.take most).flatMap (fun c => new ++ [c]) ++ t.drop most
  else Text.joinWith new (cutAt old (t.length + 1) most t)

/-- The texts among values, which they all have to be. -/
def textsOf (place : Nat) : List Value → Result (List Text)
  | [] => .ok []
  | .text t :: rest => do pure (t :: (← textsOf (place + 1) rest))
  | v :: _ => refuse (.itemNeedsText place v.kindName)

/-- Pieces of a text as a value. -/
def pieceList (pieces : List Text) : Value := .list (pieces.map .text)

/-- A function of a text that takes at least one argument. -/
def textSearch (name : String) (args : List Value) : Result Text :=
  match args with
  | [] => refuse (.argumentNeeds name.toList "() takes at least 1 argument (0 given)".toList [])
  | .text part :: _ => .ok part
  | v :: _ => refuse (.argumentNeeds [] "must be str, not ".toList v.kindName)

/-- How often a text occurs in another one, side by side. -/
def occurrences (part t : Text) : Nat :=
  if part.isEmpty then t.length + 1
  else (cutAt part (t.length + 1) (t.length + 1) t).length - 1

/-- A call of a function that texts have. -/
def callOnText (t : Text) (name : String) (args : List Value) : Option (Result Value) :=
  match name with
  | "strip" => some (strip name true true t args)
  | "lstrip" => some (strip name true false t args)
  | "rstrip" => some (strip name false true t args)
  | "startswith" => some (do
      match args with
      | v :: _ => touchesAny name false t v
      | [] =>
        refuse (.argumentNeeds name.toList "() takes at least 1 argument (0 given)".toList []))
  | "endswith" => some (do
      match args with
      | v :: _ => touchesAny name true t v
      | [] =>
        refuse (.argumentNeeds name.toList "() takes at least 1 argument (0 given)".toList []))
  | "find" => some (do
      let part ← textSearch name args
      pure (.int (match placeIn? part t with
        | some place => place
        | none => -1)))
  | "index" => some (do
      let part ← textSearch name args
      match placeIn? part t with
      | some place => pure (.int place)
      | none => refuse (.notFound "substring not found".toList))
  | "count" => some (do
      let part ← textSearch name args
      pure (.int (occurrences part t)))
  | "join" => some (match args with
      | [v] =>
        match itemsOf v with
        | .error (.unsupported (.notIterable _)) =>
          refuse (.argumentNeeds [] "can only join an iterable".toList [])
        | .error e => .error e
        | .ok items => do pure (.text (Text.joinWith t (← textsOf 0 items)))
      | _ => refuse (.call (.exactly "str.join".toList 1 args.length)))
  | "replace" => some (match args with
      | .text old :: .text new :: rest =>
        match rest with
        | [] => .ok (.text (replaced t old new (-1)))
        | [n] => do pure (.text (replaced t old new (← wholeArgument n)))
        | _ => refuse (.call (.atMost name.toList 3 args.length))
      | .text _ :: v :: _ =>
        refuse (.argumentNeeds name.toList "() argument 2 must be str, not ".toList v.kindName)
      | v :: _ :: _ =>
        refuse (.argumentNeeds name.toList "() argument 1 must be str, not ".toList v.kindName)
      | _ => refuse (.call (.atLeast name.toList 2 args.length)))
  | "split" => some (do
      let limit ← match args with
        | [_, n] => wholeArgument n
        | _ => pure (-1)
      let cuts := cutLimit t limit
      match args with
      | [] | .none :: _ => pure (pieceList (wordsOf (t.length + 1) cuts t))
      | .text [] :: _ => refuse .emptySeparator
      | .text separator :: _ => pure (pieceList (cutAt separator (t.length + 1) cuts t))
      | v :: _ => refuse (.argumentNeeds [] "must be str or None, not ".toList v.kindName))
  | _ => none

/-- The item of a list that is equal to a value. -/
def placeOfItem? (v : Value) : Nat → List Value → Result (Option Nat)
  | _, [] => .ok none
  | place, item :: rest => do
    if ← settled (item.equalItem v) then pure (some place) else placeOfItem? v (place + 1) rest

/-- How many items of a list are equal to a value. -/
def countItem (v : Value) : List Value → Result Nat
  | [] => .ok 0
  | item :: rest => do
    let same ← settled (item.equalItem v)
    let more ← countItem v rest
    pure (if same then more + 1 else more)

/-- The refusal to find an item. -/
def itemNotFound (owner v : Value) : Text :=
  match owner with
  | .tuple _ => "tuple.index(x): x not in tuple".toList
  | _ => v.inspect ++ " is not in ".toList ++ owner.kindName

/-- A call of a function that sequences have. -/
def callOnSequence (owner : Value) (items : List Value) (name : String) (args : List Value) :
    Option (Result Value) :=
  match name, args with
  | "count", [v] => some (do pure (.int (← countItem v items)))
  | "count", _ =>
    some (refuse (.call (.exactly (owner.kindName ++ ".count".toList) 1 args.length)))
  | "index", v :: _ => some (do
      match ← placeOfItem? v 0 items with
      | some place => pure (.int place)
      | none => refuse (.notFound (itemNotFound owner v)))
  | "index", [] => some (refuse (.call (.atLeast "index".toList 1 0)))
  | _, _ => none

/-- The functions without arguments that values have. -/
def plainMethod? (owner : Value) (name : String) : Option Value :=
  match owner, name with
  | .dict entries, "items" => some (.view .items entries)
  | .dict entries, "keys" => some (.view .keys entries)
  | .dict entries, "values" => some (.view .values entries)
  | .dict entries, "copy" => some (.dict entries)
  | .list items, "copy" => some (.list items)
  | .text t, "upper" => some (.text (Text.upper t))
  | .text t, "lower" => some (.text (Text.lower t))
  | .int n, "conjugate" => some (.int n)
  | .float x, "conjugate" => some (.float x)
  | .float x, "is_integer" => some (.bool (x == x.floor && !x.isInf))
  | .int n, "bit_length" =>
    some (.int (if n = 0 then 0 else (Nat.log2 n.natAbs + 1 : Nat)))
  | _, _ => none

/-- The value under a key, or else another value. -/
def getEntry (entries : List (Value × Value)) (args : List Value) : Result Value := do
  match args with
  | [] => refuse (.call (.atLeast "get".toList 1 0))
  | key :: rest =>
    if 1 < rest.length then refuse (.call (.atMost "get".toList 2 args.length))
    hashable key
    match Value.valueAt? key entries with
    | some v => pure v
    | none => pure (rest.headD .none)

/-- A call of a function that a value has. -/
def callMethod (owner : Value) (name : Text) (args : Arguments) : Result Value :=
  let word := String.ofList name
  let full := owner.kindName ++ '.' :: name
  match plainMethod? owner word with
  | some v =>
    if !args.named.isEmpty then refuse (.call (.unnamed full))
    else if !args.plain.isEmpty then refuse (.call (.exactly full 0 args.plain.length))
    else .ok v
  | none =>
    let found : Option (Result Value) := match owner with
      | .text t => callOnText t word args.plain
      | .list items => callOnSequence owner items word args.plain
      | .tuple items => callOnSequence owner items word args.plain
      | .range start stop step =>
        callOnSequence owner ((Value.rangeItems start stop step).map .int) word args.plain
      | .dict entries => if word = "get" then some (getEntry entries args.plain) else none
      | _ => none
    match found with
    | some result => if args.named.isEmpty then result else refuse (.call (.unnamed full))
    | none => refuse (.notCallable full)

/-- A call of a value. -/
def callValue (f : Value) (args : Arguments) : Result Value := do
  noGap f
  match f with
  | .kind name =>
    if name = "range".toList then makeRange args
    else if name = "dict".toList then makeDict args
    else refuse (.notCallable name)
  | .method owner name => callMethod owner name args
  | _ => refuse (.notCallable f.kindName)

end ShaderCompose.Template
