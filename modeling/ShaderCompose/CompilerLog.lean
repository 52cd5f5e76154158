import ShaderCompose.Failure
import ShaderCompose.Text.Blank
import ShaderCompose.Text.Digit
import ShaderCompose.Value.Compare

/-!
# Compiler logs

Shader compilers report a file index and a line, in one of two forms: the index followed by the
line in parentheses, or both with a colon between, perhaps behind a word and a colon.  Translating a
log puts locations in place of the file indices and leaves everything else as it is.
-/

set_option autoImplicit false

namespace ShaderCompose.CompilerLog

/-- The characters that end a line of a log. -/
def isBreak (c : Char) : Bool :=
  let n := c.toNat
  decide (10 ≤ n ∧ n ≤ 13) || decide (28 ≤ n ∧ n ≤ 30) || n == 0x85 || n == 0x2028 || n == 0x2029

/-- The lines of a log, each with the break that ends it. -/
def splitKeepingBreaks : Text → List Text
  | [] => []
  | '\r' :: '\n' :: rest => ['\r', '\n'] :: splitKeepingBreaks rest
  | c :: rest =>
    if isBreak c then [c] :: splitKeepingBreaks rest
    else match splitKeepingBreaks rest with
      | [] => [[c]]
      | line :: more => (c :: line) :: more

/-- A reference at the start of a line: what stands before the file index, its digits, and what
follows them. -/
structure Reference where
  lead : Text
  digits : Text
  rest : Text
deriving DecidableEq, Repr

/-- The words that may stand in front of a reference. -/
def words : List Text :=
  ["ERROR:".toList, "WARNING:".toList, "error:".toList, "warning:".toList]

/-- Whether a text starts with a digit. -/
def startsWithDigit (t : Text) : Bool :=
  match t with
  | [] => false
  | c :: _ => Text.isDigit c

/-- A reference whose index is followed by a line number in parentheses. -/
def parenthesized? (line : Text) : Option Reference :=
  let lead := line.takeWhile Text.isBlank
  let body := line.dropWhile Text.isBlank
  let digits := body.takeWhile Text.isDigit
  match digits, body.dropWhile Text.isDigit with
  | _ :: _, '(' :: rest =>
    match rest.takeWhile Text.isDigit, rest.dropWhile Text.isDigit with
    | _ :: _, ')' :: _ => some ⟨lead, digits, '(' :: rest⟩
    | _, _ => none
  | _, _ => none

/-- The first of some words that a text starts with, and the text behind it. -/
def dropWord? (t : Text) : List Text → Option (Text × Text)
  | [] => none
  | word :: more =>
    match Text.dropStart? t word with
    | some rest => some (word, rest)
    | none => dropWord? t more

/-- A reference whose index is followed by a colon and a line number. -/
def separated? (line : Text) : Option Reference :=
  let blanks := line.takeWhile Text.isBlank
  let body := line.dropWhile Text.isBlank
  let (lead, body) := match dropWord? body words with
    | none => (blanks, body)
    | some (word, rest) =>
      (blanks ++ word ++ rest.takeWhile Text.isBlank, rest.dropWhile Text.isBlank)
  let digits := body.takeWhile Text.isDigit
  match digits, body.dropWhile Text.isDigit with
  | _ :: _, ':' :: rest => if startsWithDigit rest then some ⟨lead, digits, ':' :: rest⟩ else none
  | _, _ => none

/-- The reference at the start of a line, in the first form that fits. -/
def reference? (line : Text) : Option Reference :=
  match parenthesized? line with
  | some ref => some ref
  | none => separated? line

/-- The most digits a file index may have. -/
def digitLimit : Nat := 4300

/-- One line of a log with the location of a file in place of its index. -/
def translateLine (locations : List Text) (line : Text) : Except Failure Text :=
  match reference? line with
  | none => .ok line
  | some ref =>
    if digitLimit < ref.digits.length then .error (.misuse (.tooManyDigits ref.digits.length))
    else match locations[Text.numberOf ref.digits]? with
      | some location => .ok (ref.lead ++ location ++ ref.rest)
      | none => .ok line

/-- Lines translated one after the other, up to the first that cannot be. -/
def translateLines (locations : List Text) : List Text → Except Failure Text
  | [] => .ok []
  | line :: rest =>
    match translateLine locations line with
    | .error e => .error e
    | .ok line => (translateLines locations rest).map (line ++ ·)

/-- A log with locations in place of file indices. -/
def translate (locations : List Text) (log : Text) : Except Failure Text :=
  translateLines locations (splitKeepingBreaks log)

/-- The location of a file index.  Anything that can be compared with integers may be passed, but
only an integer or a truth value is an index; `sequence` is what the locations are kept in. -/
def locationOf (sequence : String) (locations : List Text) (index : Value) :
    Except Failure Text :=
  let outOfRange := .error (.misuse (.fileIndexOutOfRange index.display locations.length))
  match Value.order (.int 0) index with
  | .error _ => .error (.evaluation (.notComparable "<=".toList "int".toList index.kindName))
  | .ok order =>
    if order = some .lt ∨ order = some .eq then
      match Value.order index (.int locations.length) with
      | .ok (some .lt) =>
        match index.asInt? with
        | none => .error (.evaluation (.badIndex sequence.toList index.kindName))
        | some n =>
          match locations[n.toNat]? with
          | some location => .ok location
          | none => outOfRange
      | _ => outOfRange
    else outOfRange

end ShaderCompose.CompilerLog
