/-!
# Text

A text is a list of code points.  Every rule of this library that counts, compares or cuts text
does so by code points, so this is also the form in which texts are stored.
-/

set_option autoImplicit false

namespace ShaderCompose

/-- A list of code points. -/
abbrev Text := List Char

namespace Text

/-- Whether a text begins with the given characters. -/
def startsWith (t start : Text) : Bool := start.isPrefixOf t

/-- The text after the given characters, if it begins with them. -/
def dropStart? : Text → Text → Option Text
  | t, [] => some t
  | [], _ :: _ => none
  | c :: t, s :: start => if c = s then dropStart? t start else none

/-- Every occurrence of one character replaced by another. -/
def replaceChar (old new : Char) (t : Text) : Text := t.map fun c => if c = old then new else c

/-- The pieces between the occurrences of a separator; there is always at least one. -/
def pieces (separator : Char) : Text → List Text
  | [] => [[]]
  | c :: rest =>
    if c = separator then
      [] :: pieces separator rest
    else
      match pieces separator rest with
      | [] => [[c]]
      | piece :: more => (c :: piece) :: more

/-- The pieces joined with a separator between neighbours. -/
def joinWith (separator : Text) (pieces : List Text) : Text := separator.intercalate pieces

/-- The decimal digits of a natural number. -/
def ofNat (n : Nat) : Text := Nat.toDigits 10 n

/-- The decimal form of an integer, with a minus sign if it is negative. -/
def ofInt (n : Int) : Text :=
  if n < 0 then '-' :: ofNat n.natAbs else ofNat n.natAbs

/-- The number written by ASCII digits. -/
def decimalOf (digits : Text) : Nat := digits.foldl (fun n c => 10 * n + (c.toNat - 48)) 0

/-- A text without the longest stretch at its end whose characters all have a property. -/
def dropEndWhile (p : Char → Bool) (t : Text) : Text := (t.reverse.dropWhile p).reverse

/-- The order of texts by their first differing code point, shorter texts first. -/
def before : Text → Text → Bool
  | _, [] => false
  | [], _ :: _ => true
  | a :: s, b :: t => if a = b then before s t else decide (a.toNat < b.toNat)

/-- Whether one text occurs inside another. -/
def occursIn (part : Text) : Text → Bool
  | [] => part.isEmpty
  | c :: rest => startsWith (c :: rest) part || occursIn part rest

end Text

end ShaderCompose
