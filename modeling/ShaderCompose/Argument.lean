import ShaderCompose.Failure

/-!
# Checked arguments

Callers pass values of any kind.  An operation states the kinds it takes, and a value of another
kind is refused with a message that names the argument, those kinds, and the kind it got.
-/

set_option autoImplicit false

namespace ShaderCompose.Argument

/-- The kinds that an operation can ask for. -/
inductive Kind where
  | none
  | text
  | bytes
  | bool
  | int
  | float
  | list
  | dict
deriving DecidableEq, Repr

/-- The name of a kind in messages. -/
def Kind.name : Kind → Text
  | .none => "None".toList
  | .text => "str".toList
  | .bytes => "bytes".toList
  | .bool => "bool".toList
  | .int => "int".toList
  | .float => "float".toList
  | .list => "list".toList
  | .dict => "dict".toList

/-- Whether a value is of a kind.  A truth value is also an integer. -/
def Kind.holds : Kind → Value → Bool
  | .none, .none => true
  | .text, .text _ => true
  | .bytes, .bytes _ => true
  | .bool, .bool _ => true
  | .int, .int _ => true
  | .int, .bool _ => true
  | .float, .float _ => true
  | .list, .list _ => true
  | .dict, .dict _ => true
  | _, _ => false

/-- Looks for a kind that holds, from the first on.  The absence of a value is no kind to be looked
for here. -/
def anyHolds (value : Value) : List Kind → Except Misuse Bool
  | [] => .ok false
  | .none :: _ => .error .notKind
  | kind :: rest => if kind.holds value then .ok true else anyHolds value rest

/-- Checks a value against the kinds an operation takes.  If the first of them is the absence of a
value, the argument is optional. -/
def check (argument : Option Text) (value : Value) (kinds : List Kind) : Except Failure Unit :=
  match kinds with
  | [] => .error (.misuse .noKinds)
  | first :: rest =>
    let optional := first == .none
    let asked := if optional then rest else kinds
    if optional && Kind.none.holds value then .ok ()
    else match anyHolds value asked with
      | .error e => .error (.misuse e)
      | .ok true => .ok ()
      | .ok false =>
        .error (.mismatch ⟨argument, asked.map Kind.name, optional, value.kindName⟩)

/-- The refusal of a value where an object of the named class is asked for. -/
def refuse (argument : String) (expected : String) (got : Text) : Failure :=
  .mismatch ⟨some argument.toList, [expected.toList], false, got⟩

/-- Checks that an object of the named class was passed. -/
def expectClass (argument : String) (expected : String) (got : Text) : Except Failure Unit :=
  if got = expected.toList then .ok () else .error (refuse argument expected got)

/-- Checks objects against the parameters they are for, each given with the class it asks for. -/
def expectClasses : List (String × String) → List Text → Except Failure Unit
  | (argument, expected) :: parameters, got :: rest => do
    expectClass argument expected got
    expectClasses parameters rest
  | _, _ => .ok ()

/-- Checks that something can be made of objects of the given classes: each parameter takes one. -/
def expectParts (name : String) (parameters : List (String × String)) (given : List Text) :
    Except Failure Unit :=
  match (Signature.ofParts name (parameters.map Prod.fst) 0).bind (name.toList :: given) [] with
  | .error e => .error (.misuse (.call e))
  | .ok _ => expectClasses parameters given

/-- The text of an argument that has to be one. -/
def expectText (argument : String) : Value → Except Failure Text
  | .text t => .ok t
  | v => .error (refuse argument "str" v.kindName)

/-- The text of an argument of which a member is used that, of all kinds, only texts have. -/
def textWith (member : String) : Value → Except Failure Text
  | .text t => .ok t
  | v => .error (.misuse (.lacksMember v.kindName member.toList))

/-- The text of an argument that is searched. -/
def textToSearch : Value → Except Failure Text
  | .text t => .ok t
  | .bytes _ => .error (.misuse .bytesToSearch)
  | v => .error (.misuse (.notSearchable v.kindName))

/-- Checks that an argument can be the key of a dictionary, as everything can that does not hold
other things. -/
def expectKey : Value → Except Failure Unit
  | .list _ => .error (.misuse (.notHashable "list".toList))
  | .dict _ => .error (.misuse (.notHashable "dict".toList))
  | _ => .ok ()

/-- The text of an argument that may be left out. -/
def expectText? (argument : String) : Value → Except Failure (Option Text)
  | .text t => .ok (some t)
  | .none => .ok none
  | v => .error (.mismatch ⟨some argument.toList, ["str".toList], true, v.kindName⟩)

end ShaderCompose.Argument
