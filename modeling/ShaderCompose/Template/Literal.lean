import ShaderCompose.Template.Error
import ShaderCompose.Text.Digit
import ShaderCompose.Value.Display

/-!
# Literals of templates

How numbers and quoted texts are written inside template tags.
-/

set_option autoImplicit false

namespace ShaderCompose.Template.Literal

/-- The digits at the start of a text, in groups with single underscores between them, and what
follows.  There are no digits if the text does not start with one. -/
def digitGroups (isDigit : Char → Bool) : Text → Text × Text
  | [] => ([], [])
  | c :: '_' :: d :: more =>
    if isDigit c then
      if isDigit d then
        let (digits, tail) := digitGroups isDigit (d :: more)
        (c :: digits, tail)
      else ([c], '_' :: d :: more)
    else ([], c :: '_' :: d :: more)
  | c :: rest =>
    if isDigit c then
      let (digits, tail) := digitGroups isDigit rest
      (c :: digits, tail)
    else ([], c :: rest)

/-- An exponent at the start of a text: its value, and what follows. -/
def exponent? : Text → Option (Int × Text)
  | c :: rest =>
    if c = 'e' ∨ c = 'E' then
      let (negative, body) := match rest with
        | '-' :: body => (true, body)
        | '+' :: body => (false, body)
        | body => (false, body)
      match digitGroups Text.isDigit body with
      | ([], _) => none
      | (digits, tail) =>
        let n : Int := Text.numberOf digits
        some (if negative then -n else n, tail)
    else none
  | [] => none

/-- A number with a fraction or an exponent: its digits, the power of ten they are multiplied by,
and what follows. -/
def decimal? (t : Text) : Option (Nat × Int × Text) :=
  match digitGroups Text.isDigit t with
  | ([], _) => none
  | (whole, rest) =>
    let fraction? : Option (Text × Text) := match rest with
      | '.' :: body =>
        match digitGroups Text.isDigit body with
        | ([], _) => none
        | (digits, tail) => some (digits, tail)
      | _ => none
    match fraction? with
    | some (digits, tail) =>
      let all := Text.numberOf (whole ++ digits)
      let places : Int := digits.length
      match exponent? tail with
      | some (power, tail) => some (all, power - places, tail)
      | none => some (all, -places, tail)
    | none =>
      match exponent? rest with
      | some (power, tail) => some (Text.numberOf whole, power, tail)
      | none => none

/-- The value of a digit in bases up to sixteen. -/
def hexValue? (c : Char) : Option Nat :=
  match Text.digitValue? c with
  | some n => some n
  | none =>
    if 'a' ≤ c ∧ c ≤ 'f' then some (c.toNat - 87)
    else if 'A' ≤ c ∧ c ≤ 'F' then some (c.toNat - 55)
    else none

/-- Whether a character is a digit of a base. -/
def isDigitOf (base : Nat) (c : Char) : Bool :=
  match hexValue? c with
  | some n => decide (n < base)
  | none => false

/-- The number written by digits of a base. -/
def numberIn (base : Nat) (digits : Text) : Nat :=
  digits.foldl (fun n c => base * n + (hexValue? c).getD 0) 0

/-- Whether a character may be written as a digit of a base: digits of every script only behind the
mark of base sixteen. -/
def isWrittenDigit (base : Nat) (c : Char) : Bool :=
  (base == 16 || decide (c.toNat < 128)) && isDigitOf base c

/-- Digits of a base behind its mark, with single underscores before any of them. -/
def based? (base : Nat) (t : Text) : Option (Nat × Text) :=
  let body := match t with
    | '_' :: rest => rest
    | _ => t
  match digitGroups (isWrittenDigit base) body with
  | ([], _) => none
  | (digits, tail) => some (numberIn base digits, tail)

/-- A whole number: in base two, eight or sixteen behind a mark, in decimal without a zero in
front, or as zeros. -/
def integer? (t : Text) : Option (Nat × Text) :=
  match t with
  | '0' :: rest =>
    let marked := match rest with
      | c :: body =>
        if c = 'b' ∨ c = 'B' then based? 2 body
        else if c = 'o' ∨ c = 'O' then based? 8 body
        else if c = 'x' ∨ c = 'X' then based? 16 body
        else none
      | [] => none
    match marked with
    | some found => some found
    | none => some (0, (digitGroups (· = '0') t).2)
  | c :: _ =>
    if '1' ≤ c ∧ c ≤ '9' then
      let (digits, tail) := digitGroups Text.isDigit t
      some (Text.numberOf digits, tail)
    else none
  | [] => none

/-- Whether zeros in front of other digits are followed by a digit of another script. -/
def hasStrayZeros (written : Text) : Bool :=
  let body := written.dropWhile (· = '0')
  let behind := body.dropWhile Char.isDigit
  written.head? = some '0' && body.length != behind.length &&
    (match behind with
      | c :: _ => decide (127 < c.toNat)
      | [] => false)

/-- What is wrong with a number that has a fraction or an exponent: all its digits have to be ASCII
digits. -/
def decimalFlaw? (written : Text) : Option EvalError :=
  match written with
  | [] => none
  | c :: _ =>
    if written.all fun d => decide (d.toNat < 128) then none
    else if 127 < c.toNat then some (.badNumeralStart c)
    else if hasStrayZeros written then some .strayZeros
    else some .badNumeral

/-- What is wrong with a whole number: in decimal it may not have too many digits. -/
def integerFlaw? (written : Text) : Option EvalError :=
  let digits := written.filter (· ≠ '_')
  if digits.all Text.isDigit && decide (Value.digitLimit < digits.length) then
    some (.tooManyDigitsIn digits.length)
  else none

/-- The characters up to the given quote, with escaped characters left as they are, and what
follows the quote. -/
def quotedBody? (quote : Char) : Text → Option (Text × Text)
  | [] => none
  | '\\' :: c :: rest => (quotedBody? quote rest).map fun (body, tail) => ('\\' :: c :: body, tail)
  | c :: rest =>
    if c = quote then some ([], rest)
    else if c = '\\' then none
    else (quotedBody? quote rest).map fun (body, tail) => (c :: body, tail)

/-- The characters outside ASCII written as escapes of their code points. -/
def asciiOnly (t : Text) : Text :=
  t.flatMap fun c => if c.toNat < 128 then [c] else Text.escapeCode c.toNat

/-- The escapes of one character. -/
def simpleEscape? : Char → Option Text
  | '\n' => some []
  | '\\' => some ['\\']
  | '\'' => some ['\'']
  | '"' => some ['"']
  | 'a' => some ['\x07']
  | 'b' => some ['\x08']
  | 'f' => some ['\x0c']
  | 'n' => some ['\n']
  | 'r' => some ['\r']
  | 't' => some ['\t']
  | 'v' => some ['\x0b']
  | _ => none

/-- A fixed number of hexadecimal digits at the start of a text, read as a number. -/
def hexDigits? (width : Nat) (t : Text) : Option Nat :=
  let digits := t.take width
  if digits.length = width ∧ digits.all (fun c => decide (c.toNat < 128) && isDigitOf 16 c) then
    some (numberIn 16 digits)
  else none

/-- What is wrong with an escape that names a character in braces: no names are known here. -/
def namedFlaw (rest : Text) : Text :=
  let malformed := "malformed \\N character escape".toList
  match rest with
  | '\x7b' :: more =>
    let (name, behind) := more.span (· != '\x7d')
    if name.isEmpty || behind.isEmpty then malformed else "unknown Unicode character name".toList
  | _ => malformed

/-- A text with its escapes resolved, or what is wrong with one of them.  The first argument counts
characters of an escape that are still to be skipped. -/
def unescapeAfter : Nat → Text → Except Text Text
  | _, [] => .ok []
  | skip + 1, _ :: rest => unescapeAfter skip rest
  | 0, '\\' :: c :: rest =>
    match simpleEscape? c with
    | some plain => (unescapeAfter 1 (c :: rest)).map (plain ++ ·)
    | none =>
      let octal := ((c :: rest).takeWhile (isDigitOf 8)).take 3
      if !octal.isEmpty then
        (unescapeAfter octal.length (c :: rest)).map (Char.ofNat (numberIn 8 octal) :: ·)
      else
        let code (width : Nat) (message : String) : Except Text Text :=
          match hexDigits? width rest with
          | none => .error message.toList
          | some n =>
            if n < 0x110000 then
              (unescapeAfter (width + 1) (c :: rest)).map (Char.ofNat n :: ·)
            else .error "illegal Unicode character".toList
        if c = 'x' then code 2 "truncated \\xXX escape"
        else if c = 'u' then code 4 "truncated \\uXXXX escape"
        else if c = 'U' then code 8 "truncated \\UXXXXXXXX escape"
        else if c = 'N' then .error (namedFlaw rest)
        else (unescapeAfter 0 (c :: rest)).map ('\\' :: ·)
  | 0, c :: rest => (unescapeAfter 0 rest).map (c :: ·)

/-- The text that a quoted text stands for. -/
def unescape (body : Text) : Except Text Text := unescapeAfter 0 (asciiOnly body)

end ShaderCompose.Template.Literal
