import ShaderCompose.Text.Quoted

/-!
# Calls

How the arguments of a call are matched to the parameters of a function: those by position first,
then those by name.  Of several flaws, one in the named arguments shows first, then too many
arguments, then missing ones.
-/

set_option autoImplicit false

namespace ShaderCompose

/-- Why arguments do not fit a function. -/
inductive CallError where
  | tooMany (function : Text) (least most given : Nat)
  | missing (function : Text) (parameters : List Text)
  | unexpected (function parameter : Text)
  | repeated (function parameter : Text)
  /-- A function that takes no arguments by name got some. -/
  | unnamed (function : Text)
  /-- A function that takes exactly the given number of arguments, zero or one, got others. -/
  | exactly (function : Text) (count given : Nat)
  | atLeast (function : Text) (least given : Nat)
  | atMost (function : Text) (most given : Nat)
  | notSequence (function kind : Text)
  | notMapping (function kind : Text)
deriving DecidableEq, Repr

namespace CallError

/-- The ending of a noun for a number of things. -/
def plural (n : Nat) : Text := if n = 1 then [] else ['s']

/-- Names in quotes, as they are listed in a sentence. -/
def listed : List Text → Text
  | [] => []
  | [a] => Text.quoted a
  | [a, b] => Text.quoted a ++ " and ".toList ++ Text.quoted b
  | [a, b, c] =>
    Text.quoted a ++ ", ".toList ++ Text.quoted b ++ ", and ".toList ++ Text.quoted c
  | a :: rest => Text.quoted a ++ ", ".toList ++ listed rest

/-- The description of arguments that do not fit. -/
def message : CallError → Text
  | tooMany function least most given =>
    function ++ "() takes ".toList ++
      (if least = most then Text.ofNat most ++ " positional argument".toList ++ plural most
       else "from ".toList ++ Text.ofNat least ++ " to ".toList ++ Text.ofNat most ++
        " positional arguments".toList) ++
      " but ".toList ++ Text.ofNat given ++ (if given = 1 then " was" else " were").toList ++
      " given".toList
  | missing function parameters =>
    function ++ "() missing ".toList ++ Text.ofNat parameters.length ++
      " required positional argument".toList ++ plural parameters.length ++ ": ".toList ++
      listed parameters
  | unexpected function parameter =>
    function ++ "() got an unexpected keyword argument ".toList ++ Text.quoted parameter
  | repeated function parameter =>
    function ++ "() got multiple values for argument ".toList ++ Text.quoted parameter
  | unnamed function => function ++ "() takes no keyword arguments".toList
  | exactly function count given =>
    function ++ "() takes ".toList ++
      (if count = 0 then "no arguments" else "exactly one argument").toList ++ " (".toList ++
      Text.ofNat given ++ " given)".toList
  | atLeast function least given =>
    function ++ " expected at least ".toList ++ Text.ofNat least ++ " argument".toList ++
      plural least ++ ", got ".toList ++ Text.ofNat given
  | atMost function most given =>
    function ++ " expected at most ".toList ++ Text.ofNat most ++ " argument".toList ++
      plural most ++ ", got ".toList ++ Text.ofNat given
  | notSequence function kind =>
    function ++ "() argument after * must be an iterable, not ".toList ++ kind
  | notMapping function kind =>
    function ++ "() argument after ** must be a mapping, not ".toList ++ kind

end CallError

/-- A parameter of a function, which may be optional. -/
structure Parameter where
  name : String
  optional : Bool
deriving DecidableEq, Repr

/-- What a function is called and which parameters it has, the required ones first. -/
structure Signature where
  name : String
  parameters : List Parameter
deriving DecidableEq, Repr

namespace Signature

/-- The signature of something that is made of parts, the last of which may be left out: the thing
itself comes first. -/
def ofParts (name : String) (parameters : List String) (optional : Nat) : Signature :=
  ⟨name ++ ".__init__", ⟨"self", false⟩ :: parameters.mapIdx fun i parameter =>
    ⟨parameter, decide (parameters.length ≤ i + optional)⟩⟩

/-- How many parameters are required. -/
def least (s : Signature) : Nat := (s.parameters.filter fun p => !p.optional).length

/-- The parameters with the arguments by position that they get. -/
def place {α : Type} : List Parameter → List α → List (Parameter × Option α)
  | [], _ => []
  | p :: ps, [] => (p, none) :: place ps []
  | p :: ps, a :: more => (p, some a) :: place ps more

/-- Gives parameters the arguments that name them. -/
def placeNamed {α : Type} (s : Signature) (slots : List (Parameter × Option α)) :
    List (Text × α) → Except CallError (List (Parameter × Option α))
  | [] => .ok slots
  | (n, a) :: rest =>
    match slots.find? fun slot => slot.1.name.toList == n with
    | none => .error (.unexpected s.name.toList n)
    | some (_, some _) => .error (.repeated s.name.toList n)
    | some (_, none) =>
      let filled := slots.map fun slot =>
        if slot.1.name.toList == n then (slot.1, some a) else slot
      placeNamed s filled rest

/-- The arguments of the parameters, in their order. -/
def bind {α : Type} (s : Signature) (args : List α) (named : List (Text × α)) :
    Except CallError (List (Option α)) :=
  match placeNamed s (place s.parameters args) named with
  | .error e => .error e
  | .ok slots =>
    if s.parameters.length < args.length then
      .error (.tooMany s.name.toList s.least s.parameters.length args.length)
    else
      match slots.filter fun slot => !slot.1.optional && slot.2.isNone with
      | [] => .ok (slots.map (·.2))
      | lacking => .error (.missing s.name.toList (lacking.map fun slot => slot.1.name.toList))

end Signature

end ShaderCompose
