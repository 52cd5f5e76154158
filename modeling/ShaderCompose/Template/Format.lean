import ShaderCompose.Decimal.Fixed
import ShaderCompose.Template.Operand

/-!
# Putting values into a text

A percent sign in a text stands for the next of some values, or for the one under a key.  Behind it
come flags, a width, a precision, and the letter of a conversion.
-/

set_option autoImplicit false

namespace ShaderCompose.Template.Format

/-- The values that are still to be put in. -/
inductive Source where
  | many (values : List Value)
  | single (value : Value)
  | spent

/-- The values, and the collection that keys are looked up in, if there is one. -/
structure Supply where
  source : Source
  mapping : Option Value

/-- Whether keys can be looked up in a value. -/
def isMapping : Value → Bool
  | .dict _ | .list _ | .range _ _ _ | .bytes _ | .gap _ => true
  | _ => false

/-- The supply that a value stands for: a tuple for its items, any other value for itself. -/
def Supply.of (v : Value) : Supply :=
  match v with
  | .tuple items => ⟨.many items, none⟩
  | _ => ⟨.single v, if isMapping v then some v else none⟩

/-- The refusal of a text or of the values for it. -/
def reject {α : Type} (e : FormatError) : Result α := refuse (.format e)

/-- The next value, and the supply without it. -/
def Supply.next (s : Supply) : Result (Value × Supply) :=
  match s.source with
  | .many (v :: rest) => .ok (v, { s with source := .many rest })
  | .single v => .ok (v, { s with source := .spent })
  | _ => reject .notEnough

/-- Whether values are left. -/
def Supply.isLeft (s : Supply) : Bool :=
  match s.source with
  | .many [] | .spent => false
  | _ => true

/-- The value under a key. -/
def lookUp (mapping : Value) (key : Text) : Result Value :=
  match mapping with
  | .dict entries =>
    match Value.valueAt? (.text key) entries with
    | some v => .ok v
    | none => refuse (.missingKey (Text.quoted key))
  | .gap g => .error (.gap g.message)
  | .bytes _ => refuse (.badIndex "byte".toList "str".toList)
  | v => refuse (.badIndex v.kindName "str".toList)

/-- The flags in front of a width. -/
structure Flags where
  left : Bool
  sign : Bool
  blank : Bool
  alternate : Bool
  zero : Bool
deriving DecidableEq, Repr

/-- No flags. -/
def Flags.none : Flags := ⟨false, false, false, false, false⟩

/-- Flags with one more, if a character is one. -/
def Flags.with? (f : Flags) (c : Char) : Option Flags :=
  if c = '-' then some { f with left := true }
  else if c = '+' then some { f with sign := true }
  else if c = ' ' then some { f with blank := true }
  else if c = '#' then some { f with alternate := true }
  else if c = '0' then some { f with zero := true }
  else Option.none

/-- How a value is put into a text. -/
structure Directive where
  flags : Flags
  width : Option Nat
  precision : Option Nat
  conversion : Char
deriving DecidableEq, Repr

/-- The text between balanced parentheses, and what follows them.  The number counts the parentheses
that are open. -/
def keyAfter : Nat → Text → Option (Text × Text)
  | _, [] => Option.none
  | opened, c :: rest =>
    if c = ')' then
      if opened ≤ 1 then some ([], rest)
      else (keyAfter (opened - 1) rest).map fun (key, tail) => (c :: key, tail)
    else
      (keyAfter (if c = '(' then opened + 1 else opened) rest).map fun (key, tail) =>
        (c :: key, tail)

/-- The flags at the start of a text, and what follows them. -/
def takeFlags (f : Flags) : Text → Flags × Text
  | [] => (f, [])
  | c :: rest =>
    match f.with? c with
    | some more => takeFlags more rest
    | Option.none => (f, c :: rest)

/-- A number given by a star: the next value, which has to be whole. -/
def starred (s : Supply) : Result (Int × Supply) := do
  let (v, s) ← s.next
  match v.asInt? with
  | some n => pure (n, s)
  | Option.none => reject .starNeedsInteger

/-- Whether a number fits into a word with the given number of binary digits and a sign. -/
def fitsWord (digits : Nat) (n : Int) : Bool :=
  decide (-(Decimal.twoTo digits : Int) ≤ n ∧ n < (Decimal.twoTo digits : Int))

/-- The digits at the start of a text, read as a number, and what follows them. -/
def takeNumber (t : Text) : Nat × Text :=
  (Text.decimalOf (t.takeWhile Char.isDigit), t.dropWhile Char.isDigit)

/-- The width at the start of a text, with the flags it may change. -/
def takeWidth (f : Flags) (s : Supply) (t : Text) :
    Result (Option Nat × Flags × Supply × Text) := do
  match t with
  | '*' :: rest =>
    let (n, s) ← starred s
    if fitsWord 63 n then
      pure (some n.natAbs, { f with left := f.left || decide (n < 0) }, s, rest)
    else refuse .tooLargeToCount
  | c :: _ =>
    if c.isDigit then
      let (n, rest) := takeNumber t
      if n < Decimal.twoTo 63 then pure (some n, f, s, rest) else reject .widthTooBig
    else pure (Option.none, f, s, t)
  | [] => pure (Option.none, f, s, [])

/-- The precision at the start of a text. -/
def takePrecision (s : Supply) (t : Text) : Result (Option Nat × Supply × Text) := do
  match t with
  | '.' :: '*' :: rest =>
    let (n, s) ← starred s
    if fitsWord 31 n then pure (some n.toNat, s, rest)
    else refuse (.tooLargeForWord "int".toList)
  | '.' :: rest =>
    let (n, tail) := takeNumber rest
    if n < Decimal.twoTo 31 then pure (some n, s, tail) else reject .precisionTooBig
  | _ => pure (Option.none, s, t)

/-- The directive behind a percent sign, with the supply it is to be served from. -/
def takeDirective (s : Supply) (t : Text) : Result (Directive × Supply × Text) := do
  let (s, t) ← match t with
    | '(' :: rest =>
      match s.mapping with
      | Option.none => reject .needsMapping
      | some mapping =>
        match keyAfter 1 rest with
        | Option.none => reject .incompleteKey
        | some (key, tail) => do
          let v ← lookUp mapping key
          pure ({ s with source := .single v }, tail)
    | _ => pure (s, t)
  let (flags, t) := takeFlags Flags.none t
  let (width, flags, s, t) ← takeWidth flags s t
  let (precision, s, t) ← takePrecision s t
  let t := match t with
    | 'h' :: rest | 'l' :: rest | 'L' :: rest => rest
    | _ => t
  match t with
  | [] => reject .incomplete
  | conversion :: rest => pure (⟨flags, width, precision, conversion⟩, s, rest)

/-- Text with the characters outside ASCII written as escapes. -/
def asciiOnly (t : Text) : Text :=
  t.flatMap fun c => if c.toNat < 128 then [c] else Text.escapeCode c.toNat

/-- The digits of a whole number in a base, filled up with zeros to a number of digits, behind the
mark of the base. -/
def wholeDigits (base : Nat) (mark : Text) (precision : Option Nat) (n : Int) : Text :=
  let digits := Nat.toDigits base n.natAbs
  let body := mark ++ List.replicate ((precision.getD 0) - digits.length) '0' ++ digits
  if n < 0 then '-' :: body else body

/-- The whole number that a value counts as for a conversion. -/
def wholeFor (conversion : Char) (v : Value) : Result Int :=
  let based := conversion = 'o' ∨ conversion = 'x' ∨ conversion = 'X'
  match v with
  | .int n => .ok n
  | .bool b => .ok (if b then 1 else 0)
  | .float x =>
    if based then reject (.needsInteger conversion v.kindName) else wholePart x
  | .gap g =>
    if based then reject (.needsInteger conversion v.kindName) else .error (.gap g.message)
  | _ =>
    if based then reject (.needsInteger conversion v.kindName)
    else reject (.needsNumber conversion v.kindName)

/-- A whole number as a conversion writes it. -/
def writeWhole (d : Directive) (v : Value) : Result Text := do
  let n ← wholeFor d.conversion v
  let c := d.conversion
  if c = 'o' then pure (wholeDigits 8 (if d.flags.alternate then ['0', 'o'] else []) d.precision n)
  else if c = 'x' ∨ c = 'X' then
    let t := wholeDigits 16 (if d.flags.alternate then ['0', 'x'] else []) d.precision n
    pure (if c = 'X' then t.map Char.toUpper else t)
  else if Value.isHuge n then refuse .tooManyDigits
  else pure (wholeDigits 10 [] d.precision n)

/-- The double that a value counts as. -/
def doubleFor (v : Value) : Result Float :=
  match v with
  | .gap g => .error (.gap g.message)
  | .complex _ _ => reject (.needsReal v.kindName)
  | _ =>
    match numberOf? v with
    | some n => n.toDouble
    | Option.none => reject (.needsReal v.kindName)

/-- A double as a conversion writes it. -/
def writeDouble (d : Directive) (v : Value) : Result Text := do
  let x ← doubleFor v
  let lower := d.conversion.toLower
  let style : Decimal.Style :=
    if lower = 'e' then .exponent else if lower = 'f' then .places else .general
  let t := Decimal.writeStyled style d.flags.alternate (d.precision.getD 6) x
  pure (if d.conversion.isUpper then t.map Char.toUpper else t)

/-- The character that a value stands for. -/
def characterFor (v : Value) : Result Text :=
  match v with
  | .text [c] => .ok [c]
  | _ =>
    match v.asInt? with
    | some n =>
      if 0 ≤ n ∧ n < 0x110000 then .ok [Char.ofNat n.toNat]
      else reject .noSuchCharacter
    | Option.none => reject .needsCharacter

/-- Text filled up to a width.  With zeros they go behind the sign and the mark of the base. -/
def fill (d : Directive) (numeric : Bool) (t : Text) : Text :=
  let marked := d.flags.alternate &&
    (d.conversion = 'x' || d.conversion = 'X' || d.conversion = 'o')
  let (sign, body) := if numeric then
      match t with
      | '-' :: rest => (['-'], rest)
      | '+' :: rest => (['+'], rest)
      | _ => (if d.flags.sign then ['+'] else if d.flags.blank then [' '] else [], t)
    else ([], t)
  let (mark, body) := if marked then (body.take 2, body.drop 2) else ([], body)
  let missing := (d.width.getD 0) - (sign.length + mark.length + body.length)
  let zeros := numeric && d.flags.zero
  if d.flags.left then
    sign ++ mark ++ body ++ List.replicate missing ' '
  else if zeros then sign ++ mark ++ List.replicate missing '0' ++ body
  else List.replicate missing ' ' ++ sign ++ mark ++ body

/-- A value as a directive writes it.  The place is that of the conversion in the whole text. -/
def write (d : Directive) (place : Nat) (v : Value) : Result Text := do
  let cut (t : Text) : Text := match d.precision with
    | some n => t.take n
    | Option.none => t
  let c := d.conversion
  if c = 's' then pure (fill d false (cut (← printed v)))
  else if c = 'r' then pure (fill d false (cut (← inspected v)))
  else if c = 'a' then pure (fill d false (cut (asciiOnly (← inspected v))))
  else if c = 'd' ∨ c = 'i' ∨ c = 'u' ∨ c = 'o' ∨ c = 'x' ∨ c = 'X' then
    pure (fill d true (← writeWhole d v))
  else if c = 'e' ∨ c = 'E' ∨ c = 'f' ∨ c = 'F' ∨ c = 'g' ∨ c = 'G' then
    pure (fill d true (← writeDouble d v))
  else if c = 'c' then pure (fill d false (← characterFor v))
  else reject (.unsupported c place)

/-- The text with values put in, for at most the given number of characters and directives. -/
def run (length : Nat) : Nat → Supply → Text → Result Text
  | 0, _, _ => .ok []
  | _ + 1, s, [] => if s.isLeft && s.mapping.isNone then reject .tooMany else .ok []
  | steps + 1, s, '%' :: '%' :: rest => do
    let more ← run length steps s rest
    pure ('%' :: more)
  | steps + 1, s, '%' :: rest => do
    let (d, s, tail) ← takeDirective s rest
    let (v, s) ← s.next
    let t ← write d (length - tail.length - 1) v
    let more ← run length steps s tail
    pure (t ++ more)
  | steps + 1, s, c :: rest => do
    let more ← run length steps s rest
    pure (c :: more)

end Format

/-- A text with values put in. -/
def formatted (t : Text) (v : Value) : Result Value := do
  pure (.text (← Format.run t.length (t.length + 1) (.of v) t))

end ShaderCompose.Template
