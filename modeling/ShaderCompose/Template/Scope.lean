import ShaderCompose.Template.Tree
import ShaderCompose.Text.Normal

/-!
# The names of a template

The statements of a template, of a loop and of a captured block each have names of their own.  Which
names these are, and what they stand for at first, is worked out before any statement is run: a name
that is used before it is bound anywhere around is a variable of the template, one that is bound
here and known outside starts as it is there, and any other one starts without a value.
-/

set_option autoImplicit false

namespace ShaderCompose.Template

/-- What a name stands for at first. -/
inductive Origin where
  /-- The items of a loop, or the loop itself. -/
  | given
  /-- A variable of the template. -/
  | variable
  /-- What the name stands for in the statements around. -/
  | outer
  | nothing
deriving DecidableEq, Repr

/-- A name and what it stands for at first. -/
structure Local where
  name : Text
  origin : Origin
deriving DecidableEq, Repr

mutual

/-- The names that an expression uses, in order. -/
def Expr.names : Expr → List Text
  | .const _ => []
  | .name n => [n]
  | .list items => namesOfAll items
  | .tuple items => namesOfAll items
  | .dict entries => namesOfEntries entries
  | .attribute object _ => object.names
  | .item object index => object.names ++ index.names
  | .slice start stop step => start.names ++ stop.names ++ step.names
  | .call function args => function.names ++ namesOfArgs args
  | .filter input _ args _ => input.names ++ namesOfArgs args
  | .test input _ args _ => input.names ++ namesOfArgs args
  | .neg e => e.names
  | .pos e => e.names
  | .not e => e.names
  | .arith _ left right => left.names ++ right.names
  | .concat items => namesOfAll items
  | .compare first others => first.names ++ namesOfComparisons others
  | .and left right => left.names ++ right.names
  | .or left right => left.names ++ right.names
  | .cond condition yes no _ => condition.names ++ yes.names ++ namesOfAll no

/-- The names that expressions use. -/
def namesOfAll : List Expr → List Text
  | [] => []
  | e :: rest => e.names ++ namesOfAll rest

/-- The names that entries use. -/
def namesOfEntries : List (Expr × Expr) → List Text
  | [] => []
  | (key, e) :: rest => key.names ++ e.names ++ namesOfEntries rest

/-- The names that arguments use. -/
def namesOfArgs : List (Passing × Expr) → List Text
  | [] => []
  | (_, e) :: rest => e.names ++ namesOfArgs rest

/-- The names that comparisons use. -/
def namesOfComparisons : List (Comparison × Expr) → List Text
  | [] => []
  | (_, e) :: rest => e.names ++ namesOfComparisons rest

end

/-- How a name is mentioned. -/
inductive Mention where
  | used (n : Text)
  | bound (n : Text) (line : Nat)
deriving DecidableEq, Repr

mutual

/-- The mentions of names in a pattern. -/
def Pattern.mentions : Pattern → List Mention
  | .name n line => [.bound n line]
  | .member n _ => [.used n]
  | .several parts => mentionsOfPatterns parts

/-- The mentions of names in patterns. -/
def mentionsOfPatterns : List Pattern → List Mention
  | [] => []
  | p :: rest => p.mentions ++ mentionsOfPatterns rest

end

/-- The mentions of names in an expression. -/
def Expr.mentions (e : Expr) : List Mention := e.names.map .used

mutual

/-- The mentions of names in a statement. -/
def Node.mentions : Node → List Mention
  | .text _ => []
  | .print e => e.mentions
  | .choose condition yes no _ => condition.mentions ++ mentionsOfNodes yes ++ mentionsOfNodes no
  | .each p items condition body otherwise =>
    p.mentions ++ items.mentions ++ mentionsOfNodes body ++ mentionsOfNodes otherwise ++
      (match condition with
        | some e => e.mentions
        | none => [])
  | .bind p e => p.mentions ++ e.mentions
  | .capture p filters body =>
    p.mentions ++ (filters.flatMap fun f => (namesOfArgs f.args).map .used) ++ mentionsOfNodes body

/-- The mentions of names in statements. -/
def mentionsOfNodes : List Node → List Mention
  | [] => []
  | node :: rest => node.mentions ++ mentionsOfNodes rest

end

/-- Whether the first mention of a name uses it. -/
def usesFirst (n : Text) : List Mention → Bool
  | [] => false
  | .used m :: rest => m == n || usesFirst n rest
  | .bound m _ :: rest => m != n && usesFirst n rest

/-- The line at which a name is first bound. -/
def boundAt? (n : Text) : List Mention → Option Nat
  | [] => none
  | .used _ :: rest => boundAt? n rest
  | .bound m line :: rest => if m == n then some line else boundAt? n rest

/-- The names of some statements that were found so far, and which of them are bound there. -/
structure Names where
  locals : List Local
  bound : List Text
deriving DecidableEq, Repr

namespace Names

/-- No names. -/
def empty : Names := ⟨[], []⟩

/-- Whether a name was found. -/
def has (s : Names) (n : Text) : Bool := s.locals.any (·.name == n)

/-- The names with one that stands for something at first, in the place it had. -/
def define (s : Names) (n : Text) (origin : Origin) : Names :=
  if s.has n then
    { s with locals := s.locals.map fun l => if l.name == n then ⟨n, origin⟩ else l }
  else { s with locals := s.locals ++ [⟨n, origin⟩] }

/-- The names after one was used, where others are known outside. -/
def use (outside : List Text) (s : Names) (n : Text) : Names :=
  if s.has n || outside.contains n then s else s.define n .variable

/-- The names after one was bound. -/
def bind (outside : List Text) (s : Names) (n : Text) : Names :=
  let s := { s with bound := n :: s.bound }
  if s.has n then s
  else s.define n (if outside.contains n then .outer else .nothing)

/-- The names after one was given. -/
def give (s : Names) (n : Text) : Names :=
  { s with bound := n :: s.bound }.define n .given

/-- The names after some mentions. -/
def addMentions (outside : List Text) (s : Names) (mentions : List Mention) : Names :=
  mentions.foldl (fun s m =>
    match m with
    | .used n => s.use outside n
    | .bound n _ => s.bind outside n) s

/-- The names after some were used. -/
def useAll (outside : List Text) (s : Names) (ns : List Text) : Names :=
  ns.foldl (use outside) s

/-- The names with those of a branch. -/
def absorb (s branch : Names) : Names :=
  branch.locals.foldl (fun s l => s.define l.name l.origin)
    { s with bound := branch.bound ++ s.bound }

/-- The names behind three branches, only one of which is run.  What is bound for the first time in
some of the branches, but not in all of them, may still stand for what it was outside. -/
def merge (outside : List Text) (s yes further no : Names) : Names :=
  let fresh := (yes.bound ++ further.bound ++ no.bound).filter fun n =>
    !s.bound.contains n &&
      !(yes.bound.contains n && further.bound.contains n && no.bound.contains n)
  fresh.foldl (fun s n => s.define n (if outside.contains n then .outer else .variable))
    (((s.absorb yes).absorb further).absorb no)

end Names

mutual

/-- The names after a statement.  Loops and captured blocks have names of their own. -/
def Names.afterNode (outside : List Text) (s : Names) : Node → Names
  | .text _ => s
  | .print e => s.useAll outside e.names
  | .choose condition yes no continued =>
    let s := s.useAll outside condition.names
    let (further, other) :=
      if continued then (s.afterChoices outside no, s.afterLast outside no)
      else (s, s.afterNodes outside no)
    Names.merge outside s (s.afterNodes outside yes) further other
  | .each _ items _ _ _ => s.useAll outside items.names
  | .bind p e => (s.useAll outside e.names).addMentions outside p.mentions
  | .capture p _ _ => s.addMentions outside p.mentions

/-- The names after the further choices of a block, without its last branch. -/
def Names.afterChoices (outside : List Text) (s : Names) : List Node → Names
  | .choose condition yes no continued :: _ =>
    let s := s.useAll outside condition.names
    let s := Names.merge outside s (s.afterNodes outside yes) s s
    if continued then s.afterChoices outside no else s
  | _ => s

/-- The names after the last branch of a block that has further choices. -/
def Names.afterLast (outside : List Text) (s : Names) : List Node → Names
  | .choose _ _ no continued :: _ =>
    if continued then s.afterLast outside no else s.afterNodes outside no
  | _ => s

/-- The names after statements. -/
def Names.afterNodes (outside : List Text) (s : Names) : List Node → Names
  | [] => s
  | node :: rest => (s.afterNode outside node).afterNodes outside rest

end

/-- The name that stands for the loop that is running. -/
def loopName : Text := "loop".toList

/-- The name that stands for the template. -/
def selfName : Text := "self".toList

/-- The names that a pattern binds. -/
def Pattern.names (p : Pattern) : List Text :=
  p.mentions.map fun
    | .used n => n
    | .bound n _ => n

/-- The names of a whole template. -/
def templateLocals (nodes : List Node) : List Local :=
  let start := if usesFirst selfName (mentionsOfNodes nodes) then Names.empty.give selfName
    else Names.empty
  (start.afterNodes [] nodes).locals

/-- The names of a loop. -/
def loopLocals (outside : List Text) (p : Pattern) (body : List Node) : List Local :=
  let start := if usesFirst loopName (mentionsOfNodes body) then Names.empty.give loopName
    else Names.empty
  ((p.names.foldl Names.give start).afterNodes outside body).locals

/-- The names of the condition of a loop. -/
def conditionLocals (outside : List Text) (p : Pattern) (condition : Expr) : List Local :=
  ((p.names.foldl Names.give Names.empty).useAll outside condition.names).locals

/-- The names of statements that are run once. -/
def blockLocals (outside : List Text) (body : List Node) : List Local :=
  (Names.empty.afterNodes outside body).locals

/-- The values that the names of some statements stand for.  Names with the same normal form share
one place. -/
structure Frame where
  names : List Text
  places : List (Text × Value)

namespace Frame

/-- The value of a name, if it has one. -/
def get? (f : Frame) (n : Text) : Option Value := f.places.lookup (Text.normalName n)

/-- The frame with a value for a name. -/
def set (f : Frame) (n : Text) (v : Value) : Frame :=
  let key := Text.normalName n
  { f with places := (key, v) :: f.places.filter (·.1 != key) }

/-- The frame without a value for a name. -/
def unset (f : Frame) (n : Text) : Frame :=
  let key := Text.normalName n
  { f with places := f.places.filter (·.1 != key) }

/-- The frame with a value for a name, or without one. -/
def assign (f : Frame) (n : Text) : Option Value → Frame
  | some v => f.set n v
  | none => f.unset n

end Frame

/-- The values of names, the frame of the innermost statements first. -/
abbrev Frames := List Frame

/-- The value of a name: that of the innermost frame it belongs to. -/
def Frames.get? (frames : Frames) (n : Text) : Option Value :=
  match frames.find? fun f => f.names.contains n with
  | some f => f.get? n
  | none => none

/-- A frame at the start of its statements.  Names that are given have their value already; those
that start without one lose what a name with the same normal form has. -/
def Frame.enter (globals : List (Text × Value)) (outer : Frames) (locals : List Local)
    (f : Frame) : Frame :=
  let loaded := locals.foldl (fun f l =>
    match l.origin with
    | .variable => f.assign l.name (globals.lookup l.name)
    | .outer => f.assign l.name (Frames.get? outer l.name)
    | _ => f) { f with names := locals.map (·.name) }
  locals.foldl (fun f l => if l.origin = .nothing then f.unset l.name else f) loaded

end ShaderCompose.Template
