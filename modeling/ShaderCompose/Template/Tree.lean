import ShaderCompose.Value.Basic

/-!
# The parts of a template

Expressions compute values; statements copy text, print values, choose, repeat and bind names.
-/

set_option autoImplicit false

namespace ShaderCompose.Template

/-- Operations on two numbers, texts or lists. -/
inductive Arith where
  | add | sub | mul | div | floorDiv | mod | pow
deriving DecidableEq, Repr

/-- Comparisons of two values. -/
inductive Comparison where
  | eq | ne | lt | le | gt | ge | isIn | notIn
deriving DecidableEq, Repr

/-- How an argument is passed: by position, by name, or as one of the items or entries of a
collection. -/
inductive Passing where
  | plain
  | items
  | named (n : Text)
  | entries
deriving DecidableEq, Repr

/-- An expression.  Filters, tests and choices keep the line they stand at. -/
inductive Expr where
  | const (v : Value)
  | name (n : Text)
  | list (items : List Expr)
  | tuple (items : List Expr)
  | dict (entries : List (Expr × Expr))
  | attribute (object : Expr) (member : Text)
  | item (object : Expr) (index : Expr)
  /-- The bounds of a stretch; one that is left out is the constant that is no value. -/
  | slice (start stop step : Expr)
  | call (function : Expr) (args : List (Passing × Expr))
  | filter (input : Expr) (filterName : Text) (args : List (Passing × Expr)) (line : Nat)
  | test (input : Expr) (testName : Text) (args : List (Passing × Expr)) (line : Nat)
  | neg (e : Expr)
  | pos (e : Expr)
  | not (e : Expr)
  | arith (op : Arith) (left right : Expr)
  | concat (items : List Expr)
  | compare (first : Expr) (others : List (Comparison × Expr))
  | and (left right : Expr)
  | or (left right : Expr)
  /-- A choice; without an alternative it may have no value. -/
  | cond (condition yes : Expr) (no : List Expr) (line : Nat)

instance : Inhabited Expr := ⟨.const .none⟩

/-- What a value is bound to: a name, a member of what a name stands for, or several things its
items are bound to. -/
inductive Pattern where
  | name (n : Text) (line : Nat)
  | member (n member : Text)
  | several (parts : List Pattern)

/-- A filter without its input. -/
structure FilterCall where
  name : Text
  args : List (Passing × Expr)
  line : Nat

/-- A statement. -/
inductive Node where
  | text (t : Text)
  | print (e : Expr)
  /-- A choice; if it is continued, the other branch is a further choice of the same block. -/
  | choose (condition : Expr) (yes no : List Node) (continued : Bool)
  | each (pattern : Pattern) (items : Expr) (condition : Option Expr) (body otherwise : List Node)
  | bind (pattern : Pattern) (e : Expr)
  /-- Binds the text of statements, sent through filters. -/
  | capture (pattern : Pattern) (filters : List FilterCall) (body : List Node)

end ShaderCompose.Template
