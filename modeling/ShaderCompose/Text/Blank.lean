import ShaderCompose.Text.Basic

/-!
# Blank characters

The white space of the Unicode Standard together with the four information separators.  The zero
width space and the byte order mark are not blank.
-/

set_option autoImplicit false

namespace ShaderCompose.Text

/-- White space of any script, line breaks included. -/
def isBlank (c : Char) : Bool :=
  let n := c.toNat
  decide (9 ≤ n ∧ n ≤ 13) || decide (28 ≤ n ∧ n ≤ 32) || n == 0x85 || n == 0xa0 || n == 0x1680 ||
    decide (0x2000 ≤ n ∧ n ≤ 0x200a) || n == 0x2028 || n == 0x2029 || n == 0x202f || n == 0x205f ||
    n == 0x3000

/-- A text without the blanks at its start. -/
def stripStart (t : Text) : Text := t.dropWhile isBlank

/-- A text without the blanks at its end. -/
def stripEnd (t : Text) : Text := dropEndWhile isBlank t

/-- A text without the blanks around it. -/
def strip (t : Text) : Text := stripEnd (stripStart t)

end ShaderCompose.Text
