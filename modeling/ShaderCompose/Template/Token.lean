import ShaderCompose.Text.Quoted

/-!
# Template tokens

What the grammar of templates is written in: text that is copied, the delimiters of blocks and
prints, and the names, literals and operators inside them.
-/

set_option autoImplicit false

namespace ShaderCompose.Template

/-- The operators and brackets. -/
inductive Sym where
  | add | sub | mul | div | floorDiv | mod | pow | tilde
  | leftBracket | rightBracket | leftParen | rightParen | leftBrace | rightBrace
  | eq | ne | gt | ge | lt | le | assign
  | dot | colon | pipe | comma | semicolon
deriving DecidableEq, Repr

/-- The spelling of every operator, longer ones before their beginnings. -/
def Sym.spellings : List (Text × Sym) :=
  [("//".toList, .floorDiv), ("**".toList, .pow), ("==".toList, .eq), ("!=".toList, .ne),
   (">=".toList, .ge), ("<=".toList, .le), ("+".toList, .add), ("-".toList, .sub),
   ("/".toList, .div), ("*".toList, .mul), ("%".toList, .mod), ("~".toList, .tilde),
   ("[".toList, .leftBracket), ("]".toList, .rightBracket), ("(".toList, .leftParen),
   (")".toList, .rightParen), ("\x7b".toList, .leftBrace), ("\x7d".toList, .rightBrace),
   (">".toList, .gt), ("<".toList, .lt), ("=".toList, .assign), (".".toList, .dot),
   (":".toList, .colon), ("|".toList, .pipe), (",".toList, .comma), (";".toList, .semicolon)]

/-- The spelling of an operator. -/
def Sym.spelling (s : Sym) : Text :=
  match Sym.spellings.find? (·.2 == s) with
  | some entry => entry.1
  | none => []

/-- The bracket that closes an opening one. -/
def Sym.closing? : Sym → Option Sym
  | .leftBracket => some .rightBracket
  | .leftParen => some .rightParen
  | .leftBrace => some .rightBrace
  | _ => none

/-- Whether a bracket closes another one. -/
def Sym.isClosing : Sym → Bool
  | .rightBracket | .rightParen | .rightBrace => true
  | _ => false

/-- The content of a token.  A number with a point or an exponent is kept as its digits and the
power of ten they are multiplied by. -/
inductive Tok where
  | data (t : Text)
  | openBlock
  | closeBlock
  | openPrint
  | closePrint
  | name (t : Text)
  | string (t : Text)
  | integer (n : Nat)
  | decimal (digits : Nat) (exponent : Int)
  | sym (s : Sym)
  | eof
deriving DecidableEq, Repr

/-- A token and the line it starts at. -/
structure Token where
  tok : Tok
  line : Nat
deriving DecidableEq, Repr

/-- How a token is called in messages. -/
def Tok.describe : Tok → Text
  | .data _ => "template data / text".toList
  | .openBlock => "begin of statement block".toList
  | .closeBlock => "end of statement block".toList
  | .openPrint => "begin of print statement".toList
  | .closePrint => "end of print statement".toList
  | .name t => t
  | .string _ => "string".toList
  | .integer _ => "integer".toList
  | .decimal _ _ => "float".toList
  | .sym s => s.spelling
  | .eof => "end of template".toList

/-- Whether a token is the given word. -/
def Tok.isWord (tok : Tok) (word : String) : Bool := tok == .name word.toList

end ShaderCompose.Template
