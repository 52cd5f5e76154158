/-!
# Sets of characters given by ranges of code points

The character properties of this library are tables of closed ranges of code points in increasing
order.
-/

set_option autoImplicit false

namespace ShaderCompose.Text

/-- Closed ranges of code points, in increasing order. -/
abbrev Ranges := List (Nat × Nat)

/-- Whether some range holds the code point of a character; the search ends at the first range
that starts above it. -/
def Ranges.covers : Ranges → Char → Bool
  | [], _ => false
  | (first, last) :: rest, c =>
    if c.toNat < first then false else decide (c.toNat ≤ last) || Ranges.covers rest c

end ShaderCompose.Text
