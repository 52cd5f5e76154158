import ShaderCompose.Template.Lexer
import ShaderCompose.Template.Tree

/-!
# From tokens to templates

A recursive-descent parser.  The parsers of the levels of an expression take the parser of whole
expressions as an argument, and those of statements the parser of statement lists; the recursion is
tied together at the end, where the number of tokens bounds its depth.

A flaw in the tokens counts only when the parser gets there, so of two flaws the first one shows.
-/

set_option autoImplicit false

namespace ShaderCompose.Template

/-- The token that is looked at, the ones behind it, and the flaw they end with. -/
structure Stream where
  current : Token
  rest : List Token
  flaw : Option RenderError
deriving Repr

/-- A parser: it reads from the stream or finds a flaw. -/
abbrev Parser := StateT Stream Result

namespace Parser

/-- The stream at the next token.  Behind the last token the template ends, on the same line. -/
def advance (s : Stream) : Result Stream :=
  match s.rest with
  | token :: rest => .ok ⟨token, rest, s.flaw⟩
  | [] =>
    match s.flaw with
    | some e => .error e
    | none => .ok ⟨⟨.eof, s.current.line⟩, [], none⟩

/-- The token that is looked at. -/
def peek : Parser Tok := fun s => .ok (s.current.tok, s)

/-- The line of the token that is looked at. -/
def line : Parser Nat := fun s => .ok (s.current.line, s)

/-- Takes the token that is looked at. -/
def next : Parser Token := fun s => (advance s).map fun later => (s.current, later)

/-- The token behind the one that is looked at. -/
def lookAhead : Parser Tok := fun s => (advance s).map fun later => (later.current.tok, s)

/-- Stops with a message about a line. -/
def failAt {α : Type} (message : Text) (line : Nat) : Parser α := fun _ =>
  .error (.grammar ⟨message, line⟩)

/-- Takes the token that is looked at if it has a property. -/
def skipIf (p : Tok → Bool) : Parser Bool := do
  if p (← peek) then
    let _ ← next
    pure true
  else
    pure false

/-- Takes an operator if it is looked at. -/
def skipSym (s : Sym) : Parser Bool := skipIf (· == .sym s)

/-- Takes a word if it is looked at. -/
def skipWord (word : String) : Parser Bool := skipIf (·.isWord word)

/-- Takes a token with a property, or stops: the description says what was expected. -/
def expect (p : Tok → Bool) (description : Text) : Parser Token := fun s =>
  if p s.current.tok then next s
  else if s.current.tok = .eof then
    failAt ("unexpected end of template, expected ".toList ++ Text.quoted description ++ ['.'])
      s.current.line s
  else
    failAt ("expected token ".toList ++ Text.quoted description ++ ", got ".toList ++
      Text.quoted s.current.tok.describe) s.current.line s

/-- Takes an operator, or stops. -/
def expectSym (s : Sym) : Parser Token := expect (· == .sym s) s.spelling

/-- Takes the end of a block or print, or stops. -/
def expectEnd (tok : Tok) : Parser Token := expect (· == tok) tok.describe

/-- Takes a word, or stops. -/
def expectWord (word : String) : Parser Token := expect (·.isWord word) word.toList

/-- Whether a token is a name. -/
def isName : Tok → Bool
  | .name _ => true
  | _ => false

/-- Takes a name, or stops. -/
def expectName : Parser (Text × Nat) := do
  let token ← expect isName "name".toList
  match token.tok with
  | .name n => pure (n, token.line)
  | _ => pure ([], token.line)

/-- Repeats a step while it asks for more, at most the given number of times. -/
def iterate {α : Type} (step : α → Parser (α × Bool)) : Nat → α → Parser α
  | 0, a => pure a
  | n + 1, a => do
    let (a, more) ← step a
    if more then iterate step n a else pure a

/-- Repeats a step while it asks for more, which it may do only after taking a token. -/
def loop {α : Type} (step : α → Parser (α × Bool)) (a : α) : Parser α := fun s =>
  iterate step (s.rest.length + 2) a s

/-- Things with commas between them, up to the end of a tag or a closing parenthesis, with whether
there was a comma, and the line of the last one. -/
def sequence {α : Type} (item : Parser α) : Parser (List α × Bool × Nat) := do
  let start ← line
  loop (fun (items, isTuple, at_) => do
    if !items.isEmpty then
      let _ ← expectSym .comma
    let tok ← peek
    if tok == .closePrint || tok == .closeBlock || tok == .sym .rightParen then
      pure ((items, isTuple, at_), false)
    else
      let e ← item
      if (← peek) == .sym .comma then pure ((items ++ [e], true, ← line), true)
      else pure ((items ++ [e], isTuple, at_), false)) (([], false, start) : List α × Bool × Nat)

/-- Stops where an expression is missing. -/
def missingExpression {α : Type} : Parser α := do
  failAt ("Expected an expression, got ".toList ++ Text.quoted (← peek).describe) (← line)

/-- Expressions with commas between them.  One without a comma stands for itself; none at all is
allowed only in parentheses. -/
def tupleOf (item : Parser Expr) (parenthesized : Bool) : Parser Expr := do
  let (items, isTuple, _) ← sequence item
  if isTuple then pure (.tuple items)
  else match items with
    | e :: _ => pure e
    | [] => if parenthesized then pure (.tuple []) else missingExpression

/-- Items in brackets, with commas between them and perhaps behind the last. -/
def listOf (expr : Parser Expr) : Parser (List Expr) := do
  let _ ← expectSym .leftBracket
  let items ← loop (fun items => do
    if (← peek) == .sym .rightBracket then pure (items, false)
    else
      if !items.isEmpty then
        let _ ← expectSym .comma
      if (← peek) == .sym .rightBracket then pure (items, false)
      else pure (items ++ [← expr], true)) ([] : List Expr)
  let _ ← expectSym .rightBracket
  pure items

/-- Entries in braces, with commas between them and perhaps behind the last. -/
def entriesOf (expr : Parser Expr) : Parser (List (Expr × Expr)) := do
  let _ ← expectSym .leftBrace
  let entries ← loop (fun entries => do
    if (← peek) == .sym .rightBrace then pure (entries, false)
    else
      if !entries.isEmpty then
        let _ ← expectSym .comma
      if (← peek) == .sym .rightBrace then pure (entries, false)
      else
        let key ← expr
        let _ ← expectSym .colon
        let value ← expr
        pure (entries ++ [(key, value)], true)) ([] : List (Expr × Expr))
  let _ ← expectSym .rightBrace
  pure entries

/-- Quoted texts that stand side by side, joined. -/
def strings (first : Text) : Parser Text :=
  loop (fun t => do
    match ← peek with
    | .string more =>
      let _ ← next
      pure (t ++ more, true)
    | _ => pure (t, false)) first

/-- The value of a literal with a fraction or an exponent. -/
def decimalValue (digits : Nat) (exponent : Int) : Value :=
  .float (Decimal.ofDecimal digits exponent)

/-- A name, a literal, or an expression in parentheses, brackets or braces. -/
def primary (expr : Parser Expr) : Parser Expr := do
  match ← peek with
  | .name n =>
    let _ ← next
    if n = "true".toList ∨ n = "True".toList then pure (.const (.bool true))
    else if n = "false".toList ∨ n = "False".toList then pure (.const (.bool false))
    else if n = "none".toList ∨ n = "None".toList then pure (.const .none)
    else pure (.name n)
  | .string t =>
    let _ ← next
    pure (.const (.text (← strings t)))
  | .integer n =>
    let _ ← next
    pure (.const (.int n))
  | .decimal digits exponent =>
    let _ ← next
    pure (.const (decimalValue digits exponent))
  | .sym .leftParen =>
    let _ ← next
    let e ← tupleOf expr true
    let _ ← expectSym .rightParen
    pure e
  | .sym .leftBracket => pure (.list (← listOf expr))
  | .sym .leftBrace => pure (.dict (← entriesOf expr))
  | tok => failAt ("unexpected ".toList ++ Text.quoted tok.describe) (← line)

/-- The arguments of a call that were read so far: those by position, the items to be passed, those
by name, and the entries to be passed. -/
structure CallArgs where
  plain : List Expr
  items : List Expr
  named : List (Text × Expr)
  entries : List Expr

/-- The arguments in the order in which they are evaluated. -/
def CallArgs.toList (a : CallArgs) : List (Passing × Expr) :=
  a.plain.map (Prod.mk .plain) ++ a.items.map (Prod.mk .items) ++
    a.named.map (fun (n, e) => (.named n, e)) ++ a.entries.map (Prod.mk .entries)

/-- One argument of a call, in parentheses that start at the given line. -/
def argument (expr : Parser Expr) (start : Nat) (a : CallArgs) : Parser CallArgs := do
  let ensure (ok : Bool) : Parser Unit :=
    if ok then pure () else failAt "invalid syntax for function call expression".toList start
  let isNamed ← match ← peek with
    | .name _ => pure ((← lookAhead) == .sym .assign)
    | _ => pure false
  match ← peek with
  | .sym .mul =>
    ensure (a.items.isEmpty && a.entries.isEmpty)
    let _ ← next
    pure { a with items := [← expr] }
  | .sym .pow =>
    ensure a.entries.isEmpty
    let _ ← next
    pure { a with entries := [← expr] }
  | .name n =>
    if isNamed then
      ensure a.entries.isEmpty
      let _ ← next
      let _ ← next
      pure { a with named := a.named ++ [(n, ← expr)] }
    else
      ensure (a.items.isEmpty && a.entries.isEmpty && a.named.isEmpty)
      pure { a with plain := a.plain ++ [← expr] }
  | _ =>
    ensure (a.items.isEmpty && a.entries.isEmpty && a.named.isEmpty)
    pure { a with plain := a.plain ++ [← expr] }

/-- The arguments of a call in parentheses. -/
def arguments (expr : Parser Expr) : Parser (List (Passing × Expr)) := do
  let start ← expectSym .leftParen
  let (args, _) ← loop (fun (args, needsComma) => do
    if (← peek) == .sym .rightParen then pure ((args, needsComma), false)
    else
      if needsComma then
        let _ ← expectSym .comma
      if needsComma && (← peek) == .sym .rightParen then pure ((args, needsComma), false)
      else pure ((← argument expr start.line args, true), true))
    ((⟨[], [], [], []⟩, false) : CallArgs × Bool)
  let _ ← expectSym .rightParen
  pure args.toList

/-- A bound of a stretch, which may be left out. -/
def bound (expr : Parser Expr) : Parser Expr := do
  match ← peek with
  | .sym .colon | .sym .rightBracket | .sym .comma => pure (.const .none)
  | _ => expr

/-- The bounds of a stretch behind the first of them. -/
def boundsFrom (expr : Parser Expr) (start : Expr) : Parser Expr := do
  let _ ← expectSym .colon
  let stop ← bound expr
  if ← skipSym .colon then
    let step ← match ← peek with
      | .sym .rightBracket | .sym .comma => pure (.const .none)
      | _ => expr
    pure (.slice start stop step)
  else pure (.slice start stop (.const .none))

/-- What stands in brackets: an index, or the bounds of a stretch. -/
def index (expr : Parser Expr) : Parser Expr := do
  if (← peek) == .sym .colon then boundsFrom expr (.const .none)
  else
    let e ← expr
    if (← peek) == .sym .colon then boundsFrom expr e else pure e

/-- What follows a dot or stands in brackets behind an expression. -/
def subscript (expr : Parser Expr) (object : Expr) : Parser Expr := do
  let token ← next
  if token.tok == .sym .dot then
    let member ← next
    match member.tok with
    | .name n => pure (.attribute object n)
    | .integer n => pure (.item object (.const (.int n)))
    | _ => failAt "expected name or number".toList member.line
  else
    let args ← loop (fun args => do
      if (← peek) == .sym .rightBracket then pure (args, false)
      else
        if !args.isEmpty then
          let _ ← expectSym .comma
        pure (args ++ [← index expr], true)) ([] : List Expr)
    let _ ← expectSym .rightBracket
    match args with
    | [only] => pure (.item object only)
    | _ => pure (.item object (.tuple args))

/-- Members, items and calls behind an expression. -/
def postfixes (expr : Parser Expr) (e : Expr) : Parser Expr :=
  loop (fun e => do
    match ← peek with
    | .sym .dot => pure (← subscript expr e, true)
    | .sym .leftBracket => pure (← subscript expr e, true)
    | .sym .leftParen =>
      pure (.call e (← arguments expr), true)
    | _ => pure (e, false)) e

/-- A name with further names behind dots. -/
def dottedName : Parser (Text × Nat) := do
  let (first, firstLine) ← expectName
  let full ← loop (fun (n : Text) => do
    if ← skipSym .dot then
      let (more, _) ← expectName
      pure (n ++ '.' :: more, true)
    else pure (n, false)) first
  pure (full, firstLine)

/-- One filter behind its bar. -/
def filterCall (expr : Parser Expr) : Parser FilterCall := do
  let _ ← next
  let (n, nameLine) ← dottedName
  let args ← if (← peek) == .sym .leftParen then arguments expr else pure []
  pure ⟨n, args, nameLine⟩

/-- Whether the argument of a test may start with a token. -/
def startsTestArgument (tok : Tok) : Bool :=
  match tok with
  | .name _ => !(tok.isWord "else" || tok.isWord "or" || tok.isWord "and")
  | .string _ | .integer _ | .decimal _ _ => true
  | .sym .leftBracket | .sym .leftBrace => true
  | _ => false

/-- One test behind its word. -/
def testBehind (expr : Parser Expr) (e : Expr) : Parser Expr := do
  let token ← next
  let negated ← skipWord "not"
  let (n, _) ← dottedName
  let args ←
    if (← peek) == .sym .leftParen then
      arguments expr
    else if startsTestArgument (← peek) then
      if (← peek).isWord "is" then
        failAt "You cannot chain multiple tests with is".toList (← line)
      else
        pure [(.plain, ← postfixes expr (← primary expr))]
    else pure []
  let result := Expr.test e n args token.line
  pure (if negated then .not result else result)

/-- Filters, tests and calls behind an expression. -/
def filters (expr : Parser Expr) (e : Expr) : Parser Expr :=
  loop (fun e => do
    match ← peek with
    | .sym .pipe =>
      let f ← filterCall expr
      pure (.filter e f.name f.args f.line, true)
    | .sym .leftParen =>
      pure (.call e (← arguments expr), true)
    | tok => if tok.isWord "is" then pure (← testBehind expr e, true) else pure (e, false)) e

/-- The signs in front of an expression, the last one first. -/
def signs : Parser (List Sym) :=
  loop (fun found => do
    match ← peek with
    | .sym .sub =>
      let _ ← next
      pure (.sub :: found, true)
    | .sym .add =>
      let _ ← next
      pure (.add :: found, true)
    | _ => pure (found, false)) ([] : List Sym)

/-- A primary expression with signs in front, and members, filters and tests behind. -/
def unary (expr : Parser Expr) : Parser Expr := do
  let found ← signs
  let e ← postfixes expr (← primary expr)
  filters expr (found.foldl (fun e s => if s = .sub then .neg e else .pos e) e)

/-- Operands of one level with its operators between them, grouped from the left. -/
def leftAssociative (operand : Parser Expr) (operator? : Tok → Option Arith) : Parser Expr := do
  loop (fun left => do
    match operator? (← peek) with
    | some op =>
      let _ ← next
      pure (.arith op left (← operand), true)
    | none => pure (left, false)) (← operand)

/-- Powers. -/
def powers (expr : Parser Expr) : Parser Expr :=
  leftAssociative (unary expr) fun
    | .sym .pow => some .pow
    | _ => none

/-- Products. -/
def products (expr : Parser Expr) : Parser Expr :=
  leftAssociative (powers expr) fun
    | .sym .mul => some .mul
    | .sym .div => some .div
    | .sym .floorDiv => some .floorDiv
    | .sym .mod => some .mod
    | _ => none

/-- Values to be joined as texts. -/
def concats (expr : Parser Expr) : Parser Expr := do
  let first ← products expr
  let items ← loop (fun items => do
    if ← skipSym .tilde then pure (items ++ [← products expr], true)
    else pure (items, false)) [first]
  match items with
  | [e] => pure e
  | _ => pure (.concat items)

/-- Sums. -/
def sums (expr : Parser Expr) : Parser Expr :=
  leftAssociative (concats expr) fun
    | .sym .add => some .add
    | .sym .sub => some .sub
    | _ => none

/-- The comparison that an operator stands for. -/
def comparison? : Tok → Option Comparison
  | .sym .eq => some .eq
  | .sym .ne => some .ne
  | .sym .lt => some .lt
  | .sym .le => some .le
  | .sym .gt => some .gt
  | .sym .ge => some .ge
  | _ => none

/-- Chained comparisons. -/
def comparisons (expr : Parser Expr) : Parser Expr := do
  let first ← sums expr
  let others ← loop (fun others => do
    let tok ← peek
    match comparison? tok with
    | some op =>
      let _ ← next
      pure (others ++ [(op, ← sums expr)], true)
    | none =>
      if ← skipWord "in" then pure (others ++ [(.isIn, ← sums expr)], true)
      else if tok.isWord "not" then
        if (← lookAhead).isWord "in" then
          let _ ← next
          let _ ← next
          pure (others ++ [(.notIn, ← sums expr)], true)
        else pure (others, false)
      else pure (others, false)) ([] : List (Comparison × Expr))
  if others.isEmpty then pure first else pure (.compare first others)

/-- Negations. -/
def negations (expr : Parser Expr) : Parser Expr := do
  let count ← loop (fun n => do
    if ← skipWord "not" then pure (n + 1, true) else pure (n, false)) 0
  let e ← comparisons expr
  pure (count.repeat Expr.not e)

/-- Conjunctions. -/
def conjunctions (expr : Parser Expr) : Parser Expr := do
  loop (fun left => do
    if ← skipWord "and" then pure (.and left (← negations expr), true)
    else pure (left, false)) (← negations expr)

/-- Disjunctions: expressions without a choice. -/
def disjunctions (expr : Parser Expr) : Parser Expr := do
  loop (fun left => do
    if ← skipWord "or" then pure (.or left (← conjunctions expr), true)
    else pure (left, false)) (← conjunctions expr)

/-- Choices: expressions with conditions behind them. -/
def choices (expr : Parser Expr) : Parser Expr := do
  let start ← line
  let first ← disjunctions expr
  let (e, _) ← loop (fun (e, start) => do
    if ← skipWord "if" then
      let condition ← disjunctions expr
      let no ← if ← skipWord "else" then pure [← expr] else pure []
      let result := Expr.cond condition e no start
      pure ((result, ← line), true)
    else pure ((e, start), false)) (first, start)
  pure e

/-- Expressions that are nested at most the given number of times. -/
def exprWithin : Nat → Parser Expr
  | 0 => do failAt "expression nested too deeply".toList (← line)
  | depth + 1 => choices (exprWithin depth)

/-- A bound on the depth of what is left: every level takes a token. -/
def depthLeft : Parser Nat := fun s => .ok (s.rest.length + 2, s)

/-- An expression. -/
def expression : Parser Expr := do exprWithin (← depthLeft)

/-- An expression without a choice at its top. -/
def plainExpression : Parser Expr := do disjunctions (exprWithin (← depthLeft))

/-- What an expression that cannot be bound to is called. -/
def unbindable : Expr → String
  | .const _ => "const"
  | .name _ => "name"
  | .list _ => "list"
  | .tuple _ => "tuple"
  | .dict _ => "dict"
  | .attribute _ _ => "getattr"
  | .item _ _ => "getitem"
  | .slice _ _ _ => "slice"
  | .call _ _ => "call"
  | .filter _ _ _ _ => "filter"
  | .test _ _ _ _ => "test"
  | .neg _ => "neg"
  | .pos _ => "pos"
  | .not _ => "not"
  | .arith op _ _ =>
    match op with
    | .add => "add"
    | .sub => "sub"
    | .mul => "mul"
    | .div => "div"
    | .floorDiv => "floordiv"
    | .mod => "mod"
    | .pow => "pow"
  | .concat _ => "concat"
  | .compare _ _ => "compare"
  | .and _ _ => "and"
  | .or _ _ => "or"
  | .cond _ _ _ _ => "condexpr"

mutual

/-- The pattern that an expression spells. -/
def toPattern (line : Nat) : Expr → Except String Pattern
  | .name n => .ok (.name n line)
  | .tuple items => (toPatterns line items).map .several
  | e => .error (unbindable e)

/-- The patterns that expressions spell. -/
def toPatterns (line : Nat) : List Expr → Except String (List Pattern)
  | [] => .ok []
  | e :: rest => do
    let first ← (match toPattern line e with
      | .ok p => .ok p
      | .error _ => .error "tuple")
    let more ← toPatterns line rest
    pure (first :: more)

end

/-- One part of a pattern, with its line, or what stands there that cannot be bound to.  Where
members are allowed, a dot behind a name leads to one. -/
def patternPart (members : Bool) : Parser (Except String Pattern × Nat) := do
  let start ← line
  let first ← peek
  let e ← primary expression
  match first, e with
  | .name n, .name _ =>
    if members && (← peek) == .sym .dot then
      let _ ← next
      let (member, _) ← expectName
      pure (.ok (.member n member), start)
    else pure (.ok (.name n start), start)
  | _, _ => pure (toPattern start e, start)

/-- The patterns that all parts are, if none of them cannot be bound to. -/
def allPatterns? : List (Except String Pattern × Nat) → Option (List Pattern)
  | [] => some []
  | (.ok p, _) :: rest => (allPatterns? rest).map (p :: ·)
  | (.error _, _) :: _ => none

/-- What a value is to be bound to. -/
def pattern (members : Bool) : Parser Pattern := do
  let (parts, isTuple, at_) ← sequence (patternPart members)
  let refused (kind : String) (at_ : Nat) : Parser Pattern :=
    failAt ("can't assign to ".toList ++ Text.quoted kind.toList) at_
  if isTuple then
    match allPatterns? parts with
    | some patterns => pure (.several patterns)
    | none => refused "tuple" at_
  else match parts with
    | (.ok p, _) :: _ => pure p
    | (.error kind, start) :: _ => refused kind start
    | [] => missingExpression

/-- The tags that are looked for in the blocks that are open, the innermost first, and the names of
these blocks. -/
structure Context where
  wanted : List (List String)
  open_ : List Text
deriving Repr

/-- The context inside a block of the given name. -/
def Context.enter (c : Context) (block : Text) : Context := { c with open_ := block :: c.open_ }

/-- Tags as they are listed in messages. -/
def listTags (tags : List String) : Text :=
  Text.joinWith " or ".toList (tags.map fun tag => Text.quoted tag.toList)

/-- The message about a tag that does not fit, or about the end of the template. -/
def misplaced (c : Context) (tag : Option Text) : Text :=
  let start := match tag with
    | none => "Unexpected end of template.".toList
    | some t => "Encountered unknown tag ".toList ++ Text.quoted t ++ ['.']
  let looking := match c.wanted with
    | [] => []
    | tags :: _ =>
      let expected := match tag with
        | none => false
        | some t => c.wanted.any fun tags => tags.any fun other => other.toList == t
      if expected then
        (" You probably made a nesting mistake. Jinja is expecting this tag, but currently " ++
          "looking for ").toList ++ listTags tags ++ ['.']
      else
        " Jinja was looking for the following tags: ".toList ++ listTags tags ++ ['.']
  let innermost := match c.open_ with
    | [] => []
    | block :: _ =>
      " The innermost block that needs to be closed is ".toList ++ Text.quoted block ++ ['.']
  start ++ looking ++ innermost

/-- A parser of statements up to one of the wanted tags or the end of the template. -/
abbrev Body := Context → Option (List String) → Parser (List Node)

/-- The statements of a block: from the end of its tag up to one of the given tags, which is left
to be taken. -/
def blockBody (body : Body) (c : Context) (tags : List String) : Parser (List Node) := do
  let _ ← skipSym .colon
  let _ ← expectEnd .closeBlock
  let nodes ← body { c with wanted := tags :: c.wanted } (some tags)
  if (← peek) == .eof then
    failAt (misplaced { c with wanted := tags :: c.wanted } none) (← line)
  else pure nodes

/-- A choice, from its first condition on. -/
def chooseFrom (body : Body) (c : Context) : Nat → Parser Node
  | 0 => do failAt "blocks nested too deeply".toList (← line)
  | n + 1 => do
    let condition ← tupleOf plainExpression false
    let yes ← blockBody body c ["elif", "else", "endif"]
    let token ← next
    if token.tok.isWord "elif" then
      let no ← chooseFrom body c n
      pure (.choose condition yes [no] true)
    else if token.tok.isWord "else" then
      let no ← blockBody body c ["endif"]
      let _ ← next
      pure (.choose condition yes no false)
    else
      pure (.choose condition yes [] false)

/-- A repetition, from its pattern on. -/
def eachFrom (body : Body) (c : Context) : Parser Node := do
  let p ← pattern false
  let _ ← expectWord "in"
  let items ← tupleOf plainExpression false
  let condition ← if ← skipWord "if" then pure (some (← expression)) else pure none
  let _ ← skipWord "recursive"
  let nodes ← blockBody body c ["endfor", "else"]
  let token ← next
  if token.tok.isWord "endfor" then
    pure (.each p items condition nodes [])
  else
    let otherwise ← blockBody body c ["endfor"]
    let _ ← next
    pure (.each p items condition nodes otherwise)

/-- A binding, from its pattern on: to the value of an expression, or to the text of a block. -/
def bindFrom (body : Body) (c : Context) : Parser Node := do
  let p ← pattern true
  if ← skipSym .assign then
    pure (.bind p (← tupleOf expression false))
  else
    let filters ← loop (fun filters => do
      if (← peek) == .sym .pipe then pure (filters ++ [← filterCall expression], true)
      else pure (filters, false)) ([] : List FilterCall)
    let nodes ← blockBody body c ["endset"]
    let _ ← next
    pure (.capture p filters nodes)

/-- The statement that a tag starts. -/
def statement (body : Body) (c : Context) : Parser Node := do
  let start ← line
  match ← peek with
  | .name tag =>
    let inner := c.enter tag
    if tag = "if".toList then
      let _ ← next
      chooseFrom body inner (← depthLeft)
    else if tag = "for".toList then
      let _ ← next
      eachFrom body inner
    else if tag = "set".toList then
      let _ ← next
      bindFrom body inner
    else
      failAt (misplaced c (some tag)) start
  | _ => failAt "tag name expected".toList start

/-- Statements up to one of the given tags or the end of the template. -/
def statements (body : Body) : Body := fun c tags =>
  loop (fun nodes => do
    match ← peek with
    | .data t =>
      let _ ← next
      pure (nodes ++ [.text t], true)
    | .openPrint =>
      let _ ← next
      let e ← tupleOf expression false
      let _ ← expectEnd .closePrint
      pure (nodes ++ [.print e], true)
    | .openBlock =>
      let _ ← next
      let tok ← peek
      if (tags.getD []).any tok.isWord then pure (nodes, false)
      else
        let node ← statement body c
        let _ ← expectEnd .closeBlock
        pure (nodes ++ [node], true)
    | _ => pure (nodes, false)) ([] : List Node)

/-- Statements in blocks that are nested at most the given number of times. -/
def statementsWithin : Nat → Body
  | 0 => fun _ _ => do failAt "blocks nested too deeply".toList (← line)
  | depth + 1 => statements (statementsWithin depth)

end Parser

/-- The template that tokens make. -/
def parseTokens (t : Tokens) : Result (List Node) := do
  let start ← Parser.advance ⟨⟨.eof, 1⟩, t.tokens, t.flaw⟩
  let (nodes, _) ← Parser.statementsWithin (t.tokens.length + 2) ⟨[], []⟩ none start
  pure nodes

end ShaderCompose.Template
