import ShaderCompose.Template.Error
import ShaderCompose.Template.Literal
import ShaderCompose.Template.Token
import ShaderCompose.Text.Blank
import ShaderCompose.Text.Identifier
import ShaderCompose.Text.Lines

/-!
# From template text to tokens

Outside tags text is copied up to the next delimiter.  Blocks stand in braces with dollar signs,
prints in double braces, comments in braces with number signs.  A minus sign at a delimiter strips
the blanks on that side.  Between the raw and endraw tags everything is text.
-/

set_option autoImplicit false

namespace ShaderCompose.Template

/-- What a delimiter opens. -/
inductive Opening where
  | block
  | print
  | comment
deriving DecidableEq, Repr

/-- A minus or plus sign at a delimiter. -/
inductive Sign where
  | none
  | minus
  | plus
deriving DecidableEq, Repr

/-- The sign at the start of a text, and what follows it. -/
def takeSign : Text → Sign × Text
  | '-' :: rest => (.minus, rest)
  | '+' :: rest => (.plus, rest)
  | t => (.none, t)

/-- The text before the first opening delimiter, what it opens, and the text behind it. -/
def findOpening : Text → Option (Text × Opening × Text)
  | [] => none
  | '\x7b' :: '$' :: rest => some ([], .block, rest)
  | '\x7b' :: '\x7b' :: rest => some ([], .print, rest)
  | '\x7b' :: '#' :: rest => some ([], .comment, rest)
  | c :: rest => (findOpening rest).map fun (lead, opening, tail) => (c :: lead, opening, tail)

/-- The text behind the end of a block, with the blanks that a minus sign strips. -/
def dropBlockEnd? : Text → Option Text
  | '$' :: '\x7d' :: rest => some rest
  | '-' :: '$' :: '\x7d' :: rest => some (Text.stripStart rest)
  | '+' :: '$' :: '\x7d' :: rest => some rest
  | _ => none

/-- The text behind the end of a print, with the blanks that a minus sign strips. -/
def dropPrintEnd? : Text → Option Text
  | '\x7d' :: '\x7d' :: rest => some rest
  | '-' :: '\x7d' :: '\x7d' :: rest => some (Text.stripStart rest)
  | _ => none

/-- The text behind the end of a comment, with the blanks that a minus sign strips. -/
def dropCommentEnd? : Text → Option Text
  | '#' :: '\x7d' :: rest => some rest
  | '-' :: '#' :: '\x7d' :: rest => some (Text.stripStart rest)
  | '+' :: '#' :: '\x7d' :: rest => some rest
  | _ => none

/-- The text behind a comment that starts here. -/
def skipComment : Text → Option Text
  | [] => none
  | c :: rest =>
    match dropCommentEnd? (c :: rest) with
    | some tail => some tail
    | none => skipComment rest

/-- The text behind the rest of a raw tag, if the text goes on with one. -/
def dropRawTag? (t : Text) : Option Text :=
  match Text.dropStart? (Text.stripStart t) "raw".toList with
  | none => none
  | some rest =>
    match Text.stripStart rest with
    | '$' :: '\x7d' :: tail => some tail
    | '-' :: '$' :: '\x7d' :: tail => some (Text.stripStart tail)
    | _ => none

/-- The sign of an endraw tag at the start of a text, and the text behind it. -/
def dropEndRawTag? : Text → Option (Sign × Text)
  | '\x7b' :: '$' :: rest =>
    let (sign, body) := takeSign rest
    match Text.dropStart? (Text.stripStart body) "endraw".toList with
    | none => none
    | some rest => (dropBlockEnd? (Text.stripStart rest)).map fun tail => (sign, tail)
  | _ => none

/-- The text up to the endraw tag, the sign of the tag, and the text behind it. -/
def findEndRaw : Text → Option (Text × Sign × Text)
  | [] => none
  | c :: rest =>
    match dropEndRawTag? (c :: rest) with
    | some (sign, tail) => some ([], sign, tail)
    | none => (findEndRaw rest).map fun (lead, sign, tail) => (c :: lead, sign, tail)

/-- Text before a tag as it is copied. -/
def copiedText (sign : Sign) (t : Text) : Text :=
  if sign = .minus then Text.stripEnd t else t

/-- A token for text, unless it is empty. -/
def dataTokens (t : Text) (line : Nat) : List Token :=
  if t.isEmpty then [] else [⟨.data t, line⟩]

/-- The line behind some text. -/
def lineAfter (line : Nat) (t : Text) : Nat := line + t.count '\n'

/-- Where the reading of a template stands: outside tags, or in a block or print with the closing
brackets that are still to come. -/
inductive Mode where
  | outside
  | inBlock (brackets : List Sym)
  | inPrint (brackets : List Sym)
deriving DecidableEq, Repr

/-- The text that is left to read, with the text read so far measured: its length and the line it
ends at. -/
structure Cursor where
  rest : Text
  position : Nat
  line : Nat
deriving DecidableEq, Repr

/-- The cursor at a later text, which has to be an end of the text at this cursor. -/
def Cursor.moveTo (c : Cursor) (rest : Text) : Cursor :=
  let read := c.rest.take (c.rest.length - rest.length)
  ⟨rest, c.position + read.length, lineAfter c.line read⟩

/-- One step of reading: tokens and where to go on, or the end. -/
inductive Step where
  | go (tokens : List Token) (mode : Mode) (cursor : Cursor)
  | stop (tokens : List Token)
  | fail (tokens : List Token) (e : RenderError)
deriving Repr

/-- A step that ends with a flaw of the grammar. -/
def Step.flawed (tokens : List Token) (message : Text) (line : Nat) : Step :=
  .fail tokens (.grammar ⟨message, line⟩)

/-- Reads outside tags: text, and the delimiter behind it. -/
def stepOutside (c : Cursor) : Step :=
  match findOpening c.rest with
  | none => .stop (dataTokens c.rest c.line)
  | some (lead, opening, tail) =>
    let (sign, body) := takeSign tail
    let data := dataTokens (copiedText sign lead) c.line
    let line := lineAfter c.line lead
    let next := c.moveTo body
    match opening with
    | .print => .go (data ++ [⟨.openPrint, line⟩]) (.inPrint []) next
    | .comment =>
      match skipComment body with
      | some rest => .go data .outside (next.moveTo rest)
      | none =>
        if body.isEmpty then .stop data
        else .flawed data "Missing end of comment tag".toList line
    | .block =>
      match dropRawTag? body with
      | none => .go (data ++ [⟨.openBlock, line⟩]) (.inBlock []) next
      | some raw =>
        let start := next.moveTo raw
        match findEndRaw raw with
        | some (kept, endSign, rest) =>
          .go (data ++ dataTokens (copiedText endSign kept) start.line) .outside (start.moveTo rest)
        | none =>
          if raw.isEmpty then .stop data
          else .flawed data "Missing end of raw directive".toList start.line

/-- The operator at the start of a text, and what follows it. -/
def takeSym? (t : Text) : Option (Sym × Text) :=
  Sym.spellings.findSome? fun (spelling, s) =>
    (Text.dropStart? t spelling).map fun rest => (s, rest)

/-- The brackets still to be closed behind an operator, or what is wrong with it. -/
def balance (s : Sym) (brackets : List Sym) : Except Text (List Sym) :=
  match s.closing? with
  | some closing => .ok (closing :: brackets)
  | none =>
    if s.isClosing then
      match brackets with
      | [] => .error ("unexpected '".toList ++ s.spelling ++ ['\''])
      | expected :: more =>
        if expected = s then .ok more
        else .error ("unexpected '".toList ++ s.spelling ++ "', expected '".toList ++
          expected.spelling ++ ['\''])
    else .ok brackets

/-- What was written between two texts, the second of which is an end of the first. -/
def writtenBefore (t rest : Text) : Text := t.take (t.length - rest.length)

/-- A token, or what is wrong with it. -/
def sound (flaw : Option EvalError) (tok : Tok) : Except (EvalError ⊕ Text) Tok :=
  match flaw with
  | some e => .error (.inl e)
  | none => .ok tok

/-- A quoted text as a token. -/
def stringToken (body : Text) : Except (EvalError ⊕ Text) Tok :=
  match Literal.unescape body with
  | .ok t => .ok (.string t)
  | .error message => .error (.inr message)

/-- The token at the start of a text inside a tag, if it is a name or a literal, with what
follows it.  A number behind a dot is a whole number.  A flaw is one of the grammar, or that of
a literal. -/
def takeWord? (afterDot : Bool) (t : Text) : Option (Except (EvalError ⊕ Text) Tok × Text) :=
  match if afterDot then none else Literal.decimal? t with
  | some (digits, exponent, rest) =>
    let written := (writtenBefore t rest).filter (· ≠ '_')
    some (sound (Literal.decimalFlaw? written) (.decimal digits exponent), rest)
  | none =>
    match Literal.integer? t with
    | some (n, rest) =>
      some (sound (Literal.integerFlaw? (writtenBefore t rest)) (.integer n), rest)
    | none =>
      match t.takeWhile Text.isWordChar with
      | c :: more =>
        let word := c :: more
        some (if Text.isName word then .ok (.name word)
          else .error (.inr "Invalid character in identifier".toList),
          t.dropWhile Text.isWordChar)
      | [] =>
        match t with
        | '\'' :: rest =>
          (Literal.quotedBody? '\'' rest).map fun (body, tail) => (stringToken body, tail)
        | '"' :: rest =>
          (Literal.quotedBody? '"' rest).map fun (body, tail) => (stringToken body, tail)
        | _ => none

/-- The end of a tag at the start of a text.  Inside brackets there is none. -/
def takeEnd? (mode : Mode) (t : Text) : Option (Tok × Text) :=
  match mode with
  | .inBlock [] => (dropBlockEnd? t).map fun rest => (.closeBlock, rest)
  | .inPrint [] => (dropPrintEnd? t).map fun rest => (.closePrint, rest)
  | _ => none

/-- The brackets still to be closed in a mode. -/
def Mode.brackets : Mode → List Sym
  | .outside => []
  | .inBlock brackets => brackets
  | .inPrint brackets => brackets

/-- The same kind of tag with other brackets still to be closed. -/
def Mode.withBrackets (mode : Mode) (brackets : List Sym) : Mode :=
  match mode with
  | .outside => .outside
  | .inBlock _ => .inBlock brackets
  | .inPrint _ => .inPrint brackets

/-- Reads inside a tag: its end, blanks, or one token. -/
def stepInside (mode : Mode) (afterDot : Bool) (c : Cursor) : Step :=
  match takeEnd? mode c.rest with
  | some (tok, rest) => .go [⟨tok, c.line⟩] .outside (c.moveTo rest)
  | none =>
    match c.rest with
    | [] => .stop []
    | d :: _ =>
      if Text.isBlank d then .go [] mode (c.moveTo (Text.stripStart c.rest))
      else match takeWord? afterDot c.rest with
        | some (.ok tok, rest) => .go [⟨tok, c.line⟩] mode (c.moveTo rest)
        | some (.error (.inl e), _) => .fail [] (.unsupported e)
        | some (.error (.inr message), _) => .flawed [] message c.line
        | none =>
          match takeSym? c.rest with
          | some (s, rest) =>
            match balance s mode.brackets with
            | .ok brackets => .go [⟨.sym s, c.line⟩] (mode.withBrackets brackets) (c.moveTo rest)
            | .error message => .flawed [] message c.line
          | none =>
            .flawed [] ("unexpected char ".toList ++ Text.quoted [d] ++ " at ".toList ++
              Text.ofNat c.position) c.line

/-- The tokens of a template up to its end or the first flaw. -/
structure Tokens where
  tokens : List Token
  flaw : Option RenderError
deriving Repr

/-- Reads on from a cursor, for at most the given number of steps. -/
def readTokens : Nat → Mode → Bool → Cursor → Tokens
  | 0, _, _, _ => ⟨[], none⟩
  | steps + 1, mode, afterDot, c =>
    match (match mode with
      | .outside => stepOutside c
      | _ => stepInside mode afterDot c) with
    | .stop tokens => ⟨tokens, none⟩
    | .fail tokens e => ⟨tokens, some e⟩
    | .go tokens mode next =>
      let isDot := match tokens with
        | [⟨.sym .dot, _⟩] => true
        | _ => false
      let more := readTokens steps mode isDot next
      ⟨tokens ++ more.tokens, more.flaw⟩

/-- The tokens of a template.  Every step but the last reads at least one character. -/
def tokenize (code : Text) : Tokens :=
  let source := Text.unifyBreaks code
  readTokens (source.length + 1) .outside false ⟨source, 0, 1⟩

end ShaderCompose.Template
