import ShaderCompose.Call

/-!
# What can go wrong in a template

A template fails to parse at a line, it uses a value that is not there, or it applies an operation
to values that do not support it.
-/

set_option autoImplicit false

namespace ShaderCompose.Template

/-- A template that does not follow the grammar, with the line of the offending token. -/
structure GrammarError where
  message : Text
  line : Nat
deriving DecidableEq, Repr

/-- What is wrong with a text that values are to be put into, or with these values. -/
inductive FormatError where
  | notEnough
  | tooMany
  | needsMapping
  | incompleteKey
  | incomplete
  | starNeedsInteger
  | widthTooBig
  | precisionTooBig
  | unsupported (conversion : Char) (place : Nat)
  | needsInteger (conversion : Char) (kind : Text)
  | needsNumber (conversion : Char) (kind : Text)
  | needsReal (kind : Text)
  | needsCharacter
  | noSuchCharacter
deriving DecidableEq, Repr

/-- The description of what is wrong. -/
def FormatError.message : FormatError → Text
  | notEnough => "not enough arguments for format string".toList
  | tooMany => "not all arguments converted during string formatting".toList
  | needsMapping => "format requires a mapping".toList
  | incompleteKey => "incomplete format key".toList
  | incomplete => "incomplete format".toList
  | starNeedsInteger => "* wants int".toList
  | widthTooBig => "width too big".toList
  | precisionTooBig => "precision too big".toList
  | unsupported conversion place =>
    let n := conversion.toNat
    "unsupported format character '".toList ++ (if 31 ≤ n ∧ n ≤ 126 then conversion else '?') ::
      ("' (0x".toList ++ Nat.toDigits 16 n ++ ") at index ".toList ++ Text.ofNat place)
  | needsInteger conversion kind =>
    '%' :: conversion :: " format: an integer is required, not ".toList ++ kind
  | needsNumber conversion kind =>
    '%' :: conversion :: " format: a real number is required, not ".toList ++ kind
  | needsReal kind => "must be real number, not ".toList ++ kind
  | needsCharacter => "%c requires int or char".toList
  | noSuchCharacter => "%c arg not in range(0x110000)".toList

/-- The families of errors that callers tell apart. -/
inductive ErrorFamily where
  | kind
  | value
  | division
  | overflow
  | index
  | key
  | name
  | grammar
  | undefined
  | missingPart
  | member
  | memory
deriving DecidableEq, Repr

/-- The family of a format error. -/
def FormatError.family : FormatError → ErrorFamily
  | incompleteKey | incomplete | widthTooBig | precisionTooBig | unsupported _ _ => .value
  | noSuchCharacter => .overflow
  | _ => .kind

/-- An operation that a value does not support. -/
inductive EvalError where
  | divisionByZero
  | floatDivisionByZero
  | floorDivisionByZero
  | floatFloorDivisionByZero
  | moduloByZero
  | floatModuloByZero
  | complexDivisionByZero
  | zeroToNegativePower
  | zeroToComplexPower
  | resultTooLarge
  | complexTooLarge
  | integerTooLarge
  | quotientTooLarge
  | infinityToInteger
  | undefinedToInteger
  | tooLargeForIndex
  | tooLargeToCount
  | tooLargeForWord (word : Text)
  | tooLong (what : Text)
  | outOfMemory
  | tooManyDigits
  | tooManyDigitsIn (count : Nat)
  | notIterable (kind : Text)
  | notContainer (kind : Text)
  | notReversible (kind : Text)
  | noLength (kind : Text)
  | notCallable (kind : Text)
  | notInteger (kind : Text)
  | notHashable (kind : Text)
  | notSubscriptable (kind : Text)
  | badIndex (sequence kind : Text)
  | badSlice
  | zeroSliceStep
  | cannotConcatenate (kind other : Text)
  | cannotRepeat (kind : Text)
  | badOperand (operator kind : Text)
  | badOperands (operator left right : Text)
  | notComparable (operator left right : Text)
  | textNeedsText (kind : Text)
  | cannotUnpack (kind : Text)
  | tooFewValues (expected got : Nat)
  | tooManyValues (expected : Nat)
  | zeroStep
  | missingKey (key : Text)
  | notFound (description : Text)
  | badEntry (place : Nat)
  | badEntryLength (place length : Nat)
  | itemNeedsText (place : Nat) (kind : Text)
  | argumentNeeds (function : Text) (what : Text) (kind : Text)
  | emptySeparator
  | lacksMember (kind member : Text)
  | call (e : CallError)
  | format (e : FormatError)
  | noFilter (name : Text)
  | noTest (name : Text)
  | notNamespace
  /-- A gap was used where the value is worked out before the template is filled in. -/
  | earlyGap (message : Text)
  /-- A constant that has no literal. -/
  | noLiteral (name : Text)
  | badNumeralStart (c : Char)
  | badNumeral
  | strayZeros
deriving DecidableEq, Repr

namespace EvalError

/-- The description of an unsupported operation. -/
def message : EvalError → Text
  | divisionByZero => "division by zero".toList
  | floatDivisionByZero => "float division by zero".toList
  | floorDivisionByZero => "integer division or modulo by zero".toList
  | floatFloorDivisionByZero => "float floor division by zero".toList
  | moduloByZero => "integer modulo by zero".toList
  | floatModuloByZero => "float modulo".toList
  | complexDivisionByZero => "complex division by zero".toList
  | zeroToNegativePower => "0.0 cannot be raised to a negative power".toList
  | zeroToComplexPower => "0.0 to a negative or complex power".toList
  | resultTooLarge => "(34, 'Numerical result out of range')".toList
  | complexTooLarge => "complex exponentiation".toList
  | integerTooLarge => "int too large to convert to float".toList
  | quotientTooLarge => "integer division result too large for a float".toList
  | infinityToInteger => "cannot convert float infinity to integer".toList
  | undefinedToInteger => "cannot convert float NaN to integer".toList
  | tooLargeForIndex => "cannot fit 'int' into an index-sized integer".toList
  | tooLargeToCount => "Python int too large to convert to C ssize_t".toList
  | tooLargeForWord word => "Python int too large to convert to C ".toList ++ word
  | tooLong what => what ++ " too long".toList
  | outOfMemory => []
  | tooManyDigits =>
    ("Exceeds the limit (4300 digits) for integer string conversion; use " ++
      "sys.set_int_max_str_digits() to increase the limit").toList
  | tooManyDigitsIn count =>
    "Exceeds the limit (4300 digits) for integer string conversion: value has ".toList ++
      Text.ofNat count ++
      " digits; use sys.set_int_max_str_digits() to increase the limit".toList
  | notIterable kind => Text.quoted kind ++ " object is not iterable".toList
  | notContainer kind => "argument of type ".toList ++ Text.quoted kind ++ " is not iterable".toList
  | notReversible kind => Text.quoted kind ++ " object is not reversible".toList
  | noLength kind => "object of type ".toList ++ Text.quoted kind ++ " has no len()".toList
  | notCallable kind => Text.quoted kind ++ " object is not callable".toList
  | notInteger kind =>
    Text.quoted kind ++ " object cannot be interpreted as an integer".toList
  | notHashable kind => "unhashable type: ".toList ++ Text.quoted kind
  | notSubscriptable kind => Text.quoted kind ++ " object is not subscriptable".toList
  | badIndex sequence kind =>
    if sequence = "str".toList then
      "string indices must be integers, not ".toList ++ Text.quoted kind
    else sequence ++ " indices must be integers or slices, not ".toList ++ kind
  | badSlice =>
    "slice indices must be integers or None or have an __index__ method".toList
  | zeroSliceStep => "slice step cannot be zero".toList
  | cannotConcatenate kind other =>
    "can only concatenate ".toList ++ kind ++ " (not \"".toList ++ other ++ "\") to ".toList ++ kind
  | cannotRepeat kind => "can't multiply sequence by non-int of type ".toList ++ Text.quoted kind
  | badOperand operator kind =>
    "bad operand type for unary ".toList ++ operator ++ ": ".toList ++ Text.quoted kind
  | badOperands operator left right =>
    "unsupported operand type(s) for ".toList ++ operator ++ ": ".toList ++ Text.quoted left ++
      " and ".toList ++ Text.quoted right
  | notComparable operator left right =>
    Text.quoted operator ++ " not supported between instances of ".toList ++ Text.quoted left ++
      " and ".toList ++ Text.quoted right
  | textNeedsText kind =>
    "'in <string>' requires string as left operand, not ".toList ++ kind
  | cannotUnpack kind => "cannot unpack non-iterable ".toList ++ kind ++ " object".toList
  | tooFewValues expected got =>
    "not enough values to unpack (expected ".toList ++ Text.ofNat expected ++ ", got ".toList ++
      Text.ofNat got ++ [')']
  | tooManyValues expected =>
    "too many values to unpack (expected ".toList ++ Text.ofNat expected ++ [')']
  | zeroStep => "range() arg 3 must not be zero".toList
  | missingKey key => key
  | notFound description => description
  | badEntry place =>
    "cannot convert dictionary update sequence element #".toList ++ Text.ofNat place ++
      " to a sequence".toList
  | badEntryLength place length =>
    "dictionary update sequence element #".toList ++ Text.ofNat place ++ " has length ".toList ++
      Text.ofNat length ++ "; 2 is required".toList
  | itemNeedsText place kind =>
    "sequence item ".toList ++ Text.ofNat place ++ ": expected str instance, ".toList ++ kind ++
      " found".toList
  | argumentNeeds function what kind => function ++ what ++ kind
  | emptySeparator => "empty separator".toList
  | lacksMember kind member =>
    Text.quoted kind ++ " object has no attribute ".toList ++ Text.quoted member
  | call e => e.message
  | format e => e.message
  | noFilter name => "No filter named ".toList ++ Text.quoted name ++ " found.".toList
  | noTest name => "No test named ".toList ++ Text.quoted name ++ " found.".toList
  | notNamespace => "cannot assign attribute on non-namespace object".toList
  | earlyGap message => message
  | noLiteral name => "name ".toList ++ Text.quoted name ++ " is not defined".toList
  | badNumeralStart c =>
    "invalid character '".toList ++ c :: "' (U+".toList ++
      (Text.hex 4 c.toNat).map Char.toUpper ++ ") (<unknown>, line 1)".toList
  | badNumeral => "invalid decimal literal (<unknown>, line 1)".toList
  | strayZeros =>
    ("leading zeros in decimal integer literals are not permitted; use an 0o prefix for octal " ++
      "integers (<unknown>, line 1)").toList

/-- The family of an unsupported operation. -/
def family : EvalError → ErrorFamily
  | divisionByZero | floatDivisionByZero | floorDivisionByZero | floatFloorDivisionByZero
  | moduloByZero | floatModuloByZero | complexDivisionByZero | zeroToNegativePower
  | zeroToComplexPower => .division
  | resultTooLarge | complexTooLarge | integerTooLarge | quotientTooLarge | infinityToInteger
  | tooLargeForIndex | tooLargeToCount | tooLargeForWord _ | tooLong _ => .overflow
  | outOfMemory => .memory
  | undefinedToInteger | tooManyDigits | tooManyDigitsIn _ | tooFewValues _ _ | tooManyValues _
  | zeroStep | zeroSliceStep | badEntryLength _ _ | notFound _ | emptySeparator => .value
  | missingKey _ => .key
  | noLiteral _ => .name
  | badNumeralStart _ | badNumeral | strayZeros => .grammar
  | earlyGap _ => .undefined
  | noFilter _ | noTest _ | notNamespace => .missingPart
  | lacksMember _ _ => .member
  | format e => e.family
  | _ => .kind

end EvalError

/-- Why a template has no text: it does not follow the grammar, it used a gap, or it asked for an
operation that is not supported. -/
inductive RenderError where
  | grammar (e : GrammarError)
  | gap (message : Text)
  | unsupported (e : EvalError)
deriving DecidableEq, Repr

/-- A result, or why there is none. -/
abbrev Result := Except RenderError

/-- The refusal of an operation. -/
def refuse {α : Type} (e : EvalError) : Result α := .error (.unsupported e)

/-- The outcome of matching the arguments of a call. -/
def fitting {α : Type} : Except CallError α → Result α
  | .ok a => .ok a
  | .error e => refuse (.call e)

end ShaderCompose.Template
