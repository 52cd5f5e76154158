import ShaderCompose.Decimal.Shortest
import ShaderCompose.Text.Quoted
import ShaderCompose.Value.Basic

/-!
# The text of a value

A value is shown as it is when printed, and a text inside a collection in quotes.
-/

set_option autoImplicit false

namespace ShaderCompose.Value

/-- The bytes of a byte string as they are written between quotes. -/
def escapeByte (quote : Char) (byte : UInt8) : Text :=
  let c := Char.ofNat byte.toNat
  if byte.toNat < 128 then
    if Text.isPrintable c || c = '\t' || c = '\n' || c = '\r' then Text.escapeChar quote c
    else Text.escapeCode byte.toNat
  else Text.escapeCode byte.toNat

/-- A byte string in quotes. -/
def quotedBytes (data : List UInt8) : Text :=
  let quote := Text.quoteFor (data.map fun byte => Char.ofNat byte.toNat)
  'b' :: quote :: (data.flatMap (escapeByte quote) ++ [quote])

/-- The opening brace of a collection of entries. -/
def openBrace : Char := '\x7b'

/-- The closing brace of a collection of entries. -/
def closeBrace : Char := '\x7d'

/-- A double as a part of a complex number, without a place that is zero. -/
def complexPart (x : Float) : Text :=
  let t := Decimal.ofFloat x
  match t.reverse with
  | '0' :: '.' :: rest => rest.reverse
  | _ => t

/-- A complex number: the real part is left out if it is zero without a sign. -/
def complexText (re im : Float) : Text :=
  let imaginary := complexPart im ++ ['j']
  if re.toBits = 0 then imaginary
  else
    let sign := match imaginary with
      | '-' :: _ => []
      | _ => ['+']
    '(' :: (complexPart re ++ sign ++ imaginary ++ [')'])

mutual

/-- A value as it is shown inside a collection, texts in quotes. -/
def inspect : Value → Text
  | .none => "None".toList
  | .bool b => if b then "True".toList else "False".toList
  | .int n => Text.ofInt n
  | .float x => Decimal.ofFloat x
  | .complex re im => complexText re im
  | .text t => Text.quoted t
  | .bytes data => quotedBytes data
  | .list items => '[' :: (inspectItems items ++ [']'])
  | .tuple [item] => '(' :: (inspect item ++ [',', ')'])
  | .tuple items => '(' :: (inspectItems items ++ [')'])
  | .dict entries => openBrace :: (inspectEntries entries ++ [closeBrace])
  | .view .keys entries => "dict_keys([".toList ++ inspectKeys entries ++ "])".toList
  | .view .values entries => "dict_values([".toList ++ inspectValues entries ++ "])".toList
  | .view .items entries => "dict_items([".toList ++ inspectPairs entries ++ "])".toList
  | .range start stop step =>
    "range(".toList ++ Text.ofInt start ++ ", ".toList ++ Text.ofInt stop ++
      (if step = 1 then [] else ", ".toList ++ Text.ofInt step) ++ [')']
  | .slice start stop step =>
    "slice(".toList ++ inspect start ++ ", ".toList ++ inspect stop ++ ", ".toList ++
      inspect step ++ [')']
  | .loop index length _ _ =>
    "<LoopContext ".toList ++ Text.ofNat (index + 1) ++ '/' :: (Text.ofNat length ++ ['>'])
  | .kind name => "<class '".toList ++ name ++ "'>".toList
  | .function name => "<function ".toList ++ name ++ ['>']
  | .method owner name =>
    "<built-in method ".toList ++ name ++ " of ".toList ++ owner.kindName ++ " object>".toList
  | .operation name => "<method-wrapper ".toList ++ Text.quoted name ++ ['>']
  | .template => "<TemplateReference None>".toList
  | .gap _ => "Undefined".toList

/-- Values as they are shown inside a collection, with commas between them. -/
def inspectItems : List Value → Text
  | [] => []
  | [item] => inspect item
  | item :: rest => inspect item ++ ", ".toList ++ inspectItems rest

/-- Entries as they are shown inside a collection, with commas between them. -/
def inspectEntries : List (Value × Value) → Text
  | [] => []
  | [(key, item)] => inspect key ++ ": ".toList ++ inspect item
  | (key, item) :: rest =>
    inspect key ++ ": ".toList ++ inspect item ++ ", ".toList ++ inspectEntries rest

/-- The keys of entries with commas between them. -/
def inspectKeys : List (Value × Value) → Text
  | [] => []
  | [(key, _)] => inspect key
  | (key, _) :: rest => inspect key ++ ", ".toList ++ inspectKeys rest

/-- The values of entries with commas between them. -/
def inspectValues : List (Value × Value) → Text
  | [] => []
  | [(_, item)] => inspect item
  | (_, item) :: rest => inspect item ++ ", ".toList ++ inspectValues rest

/-- Entries as pairs with commas between them. -/
def inspectPairs : List (Value × Value) → Text
  | [] => []
  | [(key, item)] => '(' :: (inspect key ++ ", ".toList ++ inspect item ++ [')'])
  | (key, item) :: rest =>
    '(' :: (inspect key ++ ", ".toList ++ inspect item ++ "), ".toList ++ inspectPairs rest)

end

/-- A value as it is printed: a text without quotes, a lenient gap as nothing. -/
def display : Value → Text
  | .text t => t
  | .gap g => if g.lenient then [] else "Undefined".toList
  | v => inspect v

/-- The most digits of a number that can be shown. -/
def digitLimit : Nat := 4300

/-- Whether a number has more digits than can be shown. -/
def isHuge (n : Int) : Bool := decide (Decimal.tenTo digitLimit ≤ n.natAbs)

mutual

/-- Whether showing a value would show a number that has too many digits for it. -/
def showsHuge : Value → Bool
  | .int n => isHuge n
  | .list items => anyShowsHuge items
  | .tuple items => anyShowsHuge items
  | .dict entries => anyEntryShowsHuge entries
  | .view _ entries => anyEntryShowsHuge entries
  | .range start stop step => isHuge start || isHuge stop || isHuge step
  | .slice start stop step => showsHuge start || showsHuge stop || showsHuge step
  | _ => false

/-- Whether showing one of some values would show such a number. -/
def anyShowsHuge : List Value → Bool
  | [] => false
  | item :: rest => showsHuge item || anyShowsHuge rest

/-- Whether showing one of some entries would show such a number. -/
def anyEntryShowsHuge : List (Value × Value) → Bool
  | [] => false
  | (key, item) :: rest => showsHuge key || showsHuge item || anyEntryShowsHuge rest

end

end ShaderCompose.Value
