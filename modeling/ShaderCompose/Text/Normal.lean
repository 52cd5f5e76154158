import ShaderCompose.Text.Compatibility

/-!
# The normal form of names

Names that differ only in how their characters are encoded have one normal form: every character is
taken apart into those it stands for, marks are put in order, and what can be written as one
character is put together again.
-/

set_option autoImplicit false

namespace ShaderCompose.Text

/-- The image of a code point under the run that holds it. -/
def imageIn? (code : Nat) : List (List Nat) → Option Nat
  | [] => none
  | [first, count, image] :: rest =>
    if first ≤ code ∧ code < first + count then some (image + (code - first))
    else imageIn? code rest
  | _ :: rest => imageIn? code rest

/-- The rest of the row that starts with a code point. -/
def expansionIn? (code : Nat) : List (List Nat) → Option (List Nat)
  | [] => none
  | (first :: image) :: rest => if first = code then some image else expansionIn? code rest
  | [] :: rest => expansionIn? code rest

/-- The parts of a syllable of the Korean script, which are found by counting. -/
def syllableParts? (code : Nat) : Option (List Nat) :=
  if 0xac00 ≤ code ∧ code ≤ 0xd7a3 then
    let place := code - 0xac00
    let lead := 0x1100 + place / 588
    let vowel := 0x1161 + place % 588 / 28
    let tail := 0x11a7 + place % 28
    some (if tail = 0x11a7 then [lead, vowel] else [lead, vowel, tail])
  else none

/-- The code points that one stands for. -/
def decomposition (code : Nat) : List Nat :=
  if code < 128 then [code]
  else match syllableParts? code with
    | some parts => parts
    | none =>
      match expansionIn? code Compatibility.expansions with
      | some image => image
      | none => [(imageIn? code Compatibility.runs).getD code]

/-- The class of a mark; all other characters are of class zero. -/
def markClass (code : Nat) : Nat :=
  if code < 128 then 0
  else
    match Compatibility.markClasses.find? fun row =>
      match row with
      | [first, count, _] => decide (first ≤ code ∧ code < first + count)
      | _ => false with
    | some [_, _, class_] => class_
    | _ => 0

/-- A mark put among marks in the order of their classes, behind those of its own. -/
def insertMark (mark : Nat) : List Nat → List Nat
  | [] => [mark]
  | other :: rest =>
    if markClass mark < markClass other then mark :: other :: rest
    else other :: insertMark mark rest

/-- Code points with every run of marks in order.  The first argument holds the marks of the run
that is being read. -/
def orderMarks (marks : List Nat) : List Nat → List Nat
  | [] => marks
  | code :: rest =>
    if markClass code = 0 then marks ++ code :: orderMarks [] rest
    else orderMarks (insertMark code marks) rest

/-- The code point that two are written as. -/
def pairOf? (a b : Nat) : Option Nat :=
  if 0x1100 ≤ a ∧ a < 0x1113 ∧ 0x1161 ≤ b ∧ b < 0x1176 then
    some (0xac00 + ((a - 0x1100) * 21 + (b - 0x1161)) * 28)
  else if 0xac00 ≤ a ∧ a ≤ 0xd7a3 ∧ (a - 0xac00) % 28 = 0 ∧ 0x11a8 ≤ b ∧ b < 0x11c3 then
    some (a + (b - 0x11a7))
  else
    Compatibility.pairs.findSome? fun row =>
      match row with
      | [x, y, z] => if x = a ∧ y = b then some z else none
      | _ => none

/-- Code points put together behind a first one.  The marks that stay behind it are given in reverse
order with the class of the last of them. -/
def composeFrom (first : Nat) (kept : List Nat) (lastClass : Nat) : List Nat → List Nat
  | [] => first :: kept.reverse
  | code :: rest =>
    let class_ := markClass code
    let pair := if kept.isEmpty || decide (lastClass < class_) then pairOf? first code else none
    match pair with
    | some whole => composeFrom whole kept lastClass rest
    | none =>
      if class_ = 0 then (first :: kept.reverse) ++ composeFrom code [] 0 rest
      else composeFrom first (code :: kept) class_ rest

/-- The normal form of a name. -/
def normalName (name : Text) : Text :=
  if name.all fun c => decide (c.toNat < 128) then name
  else
    match orderMarks [] (name.flatMap fun c => decomposition c.toNat) with
    | [] => []
    | first :: rest => (composeFrom first [] 0 rest).map Char.ofNat

end ShaderCompose.Text
