import ShaderCompose.Proofs.Template.Skeleton

/-!
# Parsers step by step

What a parser does depends on the tokens ahead of it; their lines matter for messages only.  The
first rules say what the basic parsers and the loop do at given tokens.  From them follows, level by
level of the grammar, that a name in front of the end of a tag is an expression by itself.
-/

set_option autoImplicit false

namespace ShaderCompose.Template

/-- The stream is at some tokens, with nothing wrong behind them. -/
def Stream.At (s : Stream) : List Tok → Prop
  | [] => s.flaw = none ∧ s.current.tok = .eof ∧ s.rest = []
  | tok :: more => s.flaw = none ∧ s.current.tok = tok ∧ s.rest.map Token.tok = more

/-- The first of some tokens, which is the end of the template if there are none. -/
def firstTok : List Tok → Tok
  | [] => .eof
  | tok :: _ => tok

namespace Parser

/-- At the tokens in front a parser gives a value and goes on to those behind. -/
def Takes {α : Type} (p : Parser α) (before after : List Tok) (a : α) : Prop :=
  ∀ s : Stream, s.At before → ∃ later, p s = .ok (a, later) ∧ later.At after

/-! ## Rules -/

section

variable {α β : Type} {a : α} {b : β} {tok : Tok} {toks before middle after : List Tok}

/-- A parser that gives a value takes no tokens. -/
theorem Takes.pure (a : α) (toks : List Tok) : Takes (pure a) toks toks a :=
  fun s hs => ⟨s, rfl, hs⟩

/-- Two parsers one after the other take what the first takes and then what the second takes. -/
theorem Takes.bind {p : Parser α} {f : α → Parser β} (hp : Takes p before middle a)
    (hf : Takes (f a) middle after b) : Takes (p >>= f) before after b := by
  intro s hs
  obtain ⟨between, hrun, hbetween⟩ := hp s hs
  obtain ⟨later, hrest, hlater⟩ := hf between hbetween
  refine ⟨later, ?_, hlater⟩
  show (p s >>= fun result => f result.1 result.2) = _
  rw [hrun]
  exact hrest

/-- The current token of a stream is the first of those ahead. -/
theorem current_of_at {s : Stream} (hs : s.At toks) : s.current.tok = firstTok toks := by
  cases toks with
  | nil => exact hs.2.1
  | cons tok more => exact hs.2.1

/-- To look at the next token takes none. -/
theorem Takes.peek (toks : List Tok) : Takes peek toks toks (firstTok toks) := by
  intro s hs
  refine ⟨s, ?_, hs⟩
  rw [← current_of_at hs]
  rfl

/-- Lines do not matter. -/
theorem Takes.line {f : Nat → Parser β} (h : ∀ n, Takes (f n) before after b) :
    Takes (Parser.line >>= f) before after b := fun s hs => h s.current.line s hs

/-- There is always some depth left. -/
theorem Takes.depthLeft {f : Nat → Parser β} (h : ∀ n, Takes (f (n + 1)) before after b) :
    Takes (depthLeft >>= f) before after b := fun s hs => h (s.rest.length + 1) s hs

/-- Going on by one token leaves the others ahead. -/
theorem advance_of_at {s : Stream} (hs : s.At (tok :: toks)) :
    ∃ later, advance s = .ok later ∧ later.At toks := by
  obtain ⟨hflaw, -, hrest⟩ := hs
  unfold advance
  cases hmore : s.rest with
  | nil =>
    obtain rfl : toks = [] := by simpa [hmore] using hrest.symm
    rw [hflaw]
    exact ⟨_, rfl, rfl, rfl, rfl⟩
  | cons token more =>
    obtain rfl : toks = (token :: more).map Token.tok := by rw [← hmore, hrest]
    exact ⟨_, rfl, hflaw, rfl, rfl⟩

/-- Taking a token leads to those behind it. -/
theorem Takes.next {f : Token → Parser β} (h : ∀ line, Takes (f ⟨tok, line⟩) toks after b) :
    Takes (next >>= f) (tok :: toks) after b := by
  intro s hs
  obtain ⟨later, hadvance, hlater⟩ := advance_of_at hs
  obtain ⟨found, hrun, hfound⟩ := h s.current.line later hlater
  refine ⟨found, ?_, hfound⟩
  have htoken : s.current = ⟨tok, s.current.line⟩ := by rw [← hs.2.1]
  show ((advance s).map fun later => (s.current, later)) >>= (fun r => f r.1 r.2) = _
  rw [hadvance, htoken]
  exact hrun

/-- An expected token is taken if it is the one ahead. -/
theorem Takes.expect {p : Tok → Bool} {description : Text} {f : Token → Parser β}
    (hp : p tok = true) (h : ∀ line, Takes (f ⟨tok, line⟩) toks after b) :
    Takes (expect p description >>= f) (tok :: toks) after b := by
  intro s hs
  have hexpect : Parser.expect p description s = Parser.next s := by
    unfold Parser.expect
    rw [hs.2.1, if_pos hp]
  obtain ⟨later, hrun, hlater⟩ := Takes.next h s hs
  refine ⟨later, ?_, hlater⟩
  rw [← hrun]
  show Parser.expect p description s >>= _ = Parser.next s >>= _
  rw [hexpect]

/-- A token that does not fit is not skipped. -/
theorem Takes.skipIf_false {p : Tok → Bool} (h : p (firstTok toks) = false) :
    Takes (skipIf p) toks toks false := by
  refine Takes.bind (Takes.peek toks) ?_
  rw [h]
  exact Takes.pure false toks

/-- A step of a loop from which the loop goes on to its result. -/
def Loops (step : α → Parser (α × Bool)) (start : α) (before after : List Tok) (a : α) : Prop :=
  ∀ n, before.length < n → Takes (iterate step n start) before after a

/-- A loop ends when its step says so. -/
theorem Loops.stop {step : α → Parser (α × Bool)} {start : α}
    (h : Takes (step start) before after (a, false)) : Loops step start before after a := by
  intro n hn
  obtain ⟨n, rfl⟩ := Nat.exists_eq_succ_of_ne_zero (Nat.ne_zero_of_lt hn)
  exact Takes.bind h (Takes.pure a after)

/-- A loop goes on when its step says so, as long as the step has taken some token. -/
theorem Loops.again {step : α → Parser (α × Bool)} {start next : α}
    (h : Takes (step start) before middle (next, true)) (hshort : middle.length < before.length)
    (hnext : Loops step next middle after a) : Loops step start before after a := by
  intro n hn
  obtain ⟨n, rfl⟩ := Nat.exists_eq_succ_of_ne_zero (Nat.ne_zero_of_lt hn)
  exact Takes.bind h (hnext n (by omega))

/-- A loop may take as many steps as there are tokens left. -/
theorem Takes.loop {step : α → Parser (α × Bool)} {start : α}
    (h : Loops step start before after a) : Takes (loop step start) before after a := by
  intro s hs
  refine h (s.rest.length + 2) ?_ s hs
  cases before with
  | nil => simp
  | cons tok more =>
    rw [← hs.2.2]
    simp

/-- A loop that ends at its first step takes what this step takes. -/
theorem Takes.loop_stop {step : α → Parser (α × Bool)} {start : α}
    (h : Takes (step start) before after (a, false)) :
    Takes (Parser.loop step start) before after a :=
  Takes.loop (Loops.stop h)

end

/-! ## A name by itself -/

section

variable {expr operand : Parser Expr} {e : Expr} {n : Text} {before after : List Tok}

/-- The next token ends a tag. -/
def AtEnd (after : List Tok) : Prop :=
  firstTok after = .closePrint ∨ firstTok after = .closeBlock

/-- At the end of a tag nothing is skipped but the end itself. -/
theorem AtEnd.skipIf (hend : AtEnd after) {p : Tok → Bool} (hprint : p .closePrint = false)
    (hblock : p .closeBlock = false) : Takes (skipIf p) after after false := by
  apply Takes.skipIf_false
  rcases hend with h | h
  · rw [h, hprint]
  · rw [h, hblock]

/-- A name is the word only that it is spelled like. -/
theorem isWord_eq_false {word : String} (h : n ≠ word.toList) :
    (Tok.name n).isWord word = false := by
  simp [Tok.isWord, h]

/-- A name that is no keyword is a primary expression. -/
theorem takes_primary (hfree : n ∉ keywords) :
    Takes (primary expr) (.name n :: after) after (.name n) := by
  simp only [keywords, List.mem_cons, List.not_mem_nil, or_false, not_or] at hfree
  obtain ⟨htrue, hTrue, hfalse, hFalse, hnone, hNone, -⟩ := hfree
  refine Takes.bind (Takes.peek _) (Takes.next fun line => ?_)
  rw [if_neg (not_or.mpr ⟨htrue, hTrue⟩), if_neg (not_or.mpr ⟨hfalse, hFalse⟩),
    if_neg (not_or.mpr ⟨hnone, hNone⟩)]
  exact Takes.pure _ _

/-- At the end of a tag nothing is put behind an expression. -/
theorem takes_postfixes (hend : AtEnd after) : Takes (postfixes expr e) after after e := by
  refine Takes.loop_stop (Takes.bind (Takes.peek _) ?_)
  rcases hend with h | h
  all_goals
    rw [h]
    exact Takes.pure _ _

/-- At the end of a tag there is no filter. -/
theorem takes_filters (hend : AtEnd after) : Takes (filters expr e) after after e := by
  refine Takes.loop_stop (Takes.bind (Takes.peek _) ?_)
  rcases hend with h | h
  all_goals
    rw [h]
    exact Takes.pure _ _

/-- A name has no sign in front. -/
theorem takes_signs : Takes signs (.name n :: after) (.name n :: after) [] :=
  Takes.loop_stop (Takes.bind (Takes.peek _) (Takes.pure _ _))

/-- A name at the end of a tag is taken as it is where a sign could stand in front of it. -/
theorem takes_unary (hfree : n ∉ keywords) (hend : AtEnd after) :
    Takes (unary expr) (.name n :: after) after (.name n) :=
  Takes.bind takes_signs (Takes.bind (takes_primary hfree)
    (Takes.bind (takes_postfixes hend) (takes_filters hend)))

/-- An operand by itself, where no operator of its level can follow. -/
theorem takes_leftAssociative {operator? : Tok → Option Arith} (hend : AtEnd after)
    (hprint : operator? .closePrint = none) (hblock : operator? .closeBlock = none)
    (h : Takes operand before after e) :
    Takes (leftAssociative operand operator?) before after e := by
  refine Takes.bind h (Takes.loop_stop (Takes.bind (Takes.peek _) ?_))
  rcases hend with h | h
  · rw [h, hprint]
    exact Takes.pure _ _
  · rw [h, hblock]
    exact Takes.pure _ _

/-- A name at the end of a tag is taken as it is where factors could follow. -/
theorem takes_products (hfree : n ∉ keywords) (hend : AtEnd after) :
    Takes (products expr) (.name n :: after) after (.name n) :=
  takes_leftAssociative hend rfl rfl
    (takes_leftAssociative hend rfl rfl (takes_unary hfree hend))

/-- A name at the end of a tag is taken as it is where a text could be put behind it. -/
theorem takes_concats (hfree : n ∉ keywords) (hend : AtEnd after) :
    Takes (concats expr) (.name n :: after) after (.name n) := by
  refine Takes.bind (takes_products hfree hend) ?_
  refine Takes.bind (Takes.loop_stop (a := [.name n]) ?_) (Takes.pure _ _)
  exact Takes.bind (hend.skipIf rfl rfl) (Takes.pure _ _)

/-- A name at the end of a tag is taken as it is where summands could follow. -/
theorem takes_sums (hfree : n ∉ keywords) (hend : AtEnd after) :
    Takes (sums expr) (.name n :: after) after (.name n) :=
  takes_leftAssociative hend rfl rfl (takes_concats hfree hend)

/-- A name at the end of a tag is taken as it is where a comparison could follow. -/
theorem takes_comparisons (hfree : n ∉ keywords) (hend : AtEnd after) :
    Takes (comparisons expr) (.name n :: after) after (.name n) := by
  refine Takes.bind (takes_sums hfree hend) ?_
  refine Takes.bind (Takes.loop_stop (a := []) ?_) (Takes.pure _ _)
  refine Takes.bind (Takes.peek _) ?_
  rcases id hend with h | h
  all_goals
    rw [h]
    exact Takes.bind (hend.skipIf rfl rfl) (Takes.pure _ _)

/-- A name at the end of a tag is taken as it is where a negation could stand in front of it. -/
theorem takes_negations (hfree : n ∉ keywords) (hend : AtEnd after) :
    Takes (negations expr) (.name n :: after) after (.name n) := by
  have hnot : n ≠ "not".toList := fun heq => hfree (by simp [keywords, heq])
  refine Takes.bind (Takes.loop_stop (a := 0) ?_)
    (Takes.bind (takes_comparisons hfree hend) (Takes.pure _ _))
  exact Takes.bind (Takes.skipIf_false (isWord_eq_false hnot)) (Takes.pure _ _)

/-- A name at the end of a tag is taken as it is where a conjunction could follow. -/
theorem takes_conjunctions (hfree : n ∉ keywords) (hend : AtEnd after) :
    Takes (conjunctions expr) (.name n :: after) after (.name n) := by
  refine Takes.bind (takes_negations hfree hend) (Takes.loop_stop ?_)
  exact Takes.bind (hend.skipIf rfl rfl) (Takes.pure _ _)

/-- A name at the end of a tag is taken as it is where a disjunction could follow. -/
theorem takes_disjunctions (hfree : n ∉ keywords) (hend : AtEnd after) :
    Takes (disjunctions expr) (.name n :: after) after (.name n) := by
  refine Takes.bind (takes_conjunctions hfree hend) (Takes.loop_stop ?_)
  exact Takes.bind (hend.skipIf rfl rfl) (Takes.pure _ _)

/-- A name at the end of a tag is taken as it is where a condition could follow. -/
theorem takes_choices (hfree : n ∉ keywords) (hend : AtEnd after) :
    Takes (choices expr) (.name n :: after) after (.name n) := by
  refine Takes.line fun start => Takes.bind (takes_disjunctions hfree hend) ?_
  refine Takes.bind (Takes.loop_stop (a := (.name n, start)) ?_) (Takes.pure _ _)
  exact Takes.bind (hend.skipIf rfl rfl) (Takes.pure _ _)

/-- A name at the end of a tag is an expression by itself. -/
theorem takes_expression (hfree : n ∉ keywords) (hend : AtEnd after) :
    Takes expression (.name n :: after) after (.name n) :=
  Takes.depthLeft fun _ => takes_choices hfree hend

/-- A name at the end of a tag is an expression by itself also where no choice between values may
stand. -/
theorem takes_plainExpression (hfree : n ∉ keywords) (hend : AtEnd after) :
    Takes plainExpression (.name n :: after) after (.name n) :=
  Takes.depthLeft fun _ => takes_disjunctions hfree hend

/-- A single item, with no comma behind it. -/
theorem takes_tupleOf {item : Parser Expr} (hend : AtEnd after)
    (hitem : Takes item (.name n :: after) after e) :
    Takes (tupleOf item false) (.name n :: after) after e := by
  unfold tupleOf sequence
  rw [bind_assoc]
  refine Takes.line fun start => Takes.bind (a := ([e], false, start)) (Takes.loop_stop ?_)
    (Takes.pure _ _)
  refine Takes.bind (Takes.peek _) (Takes.bind hitem (Takes.bind (Takes.peek _) ?_))
  rcases hend with h | h
  all_goals
    rw [h]
    exact Takes.pure _ _

end

end Parser

end ShaderCompose.Template
