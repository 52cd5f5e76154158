import ShaderCompose.Proofs.Template.Parsing
import ShaderCompose.Proofs.Template.Reading

/-!
# The statements of a skeleton

Every tag that prints stands for a statement, and so does every pair of tags that starts and ends a
choice, with what is between them.  The parser finds these statements: it goes through the pieces of
a skeleton one by one, and for a choice it calls itself with the end of the choice as what it looks
for.
-/

set_option autoImplicit false

namespace ShaderCompose.Template

/-- The statements that pieces stand for. -/
inductive Makes : List Piece → List Node → Prop
  | nil : Makes [] []
  | print {front : Text} {before after : Padding} {v : Variable} {more : List Piece}
      {nodes : List Node} : Makes more nodes →
      Makes (⟨front, .print before v after⟩ :: more)
        (copyNodes front ++ .print (.name v.name) :: nodes)
  | choice {front last : Text} {before between after before' after' : Padding} {v : Variable}
      {apart : between.text ≠ []} {inner more : List Piece} {yes nodes : List Node} :
      Makes inner yes → Makes more nodes →
      Makes (⟨front, .start before between v after apart⟩ ::
          (inner ++ ⟨last, .finish before' after'⟩ :: more))
        (copyNodes front ++ .choose (.name v.name) (yes ++ copyNodes last) [] false :: nodes)

/-- Pieces whose tags are nested stand for statements. -/
theorem Nested.exists_makes {tags : List Tag} (h : Nested tags) {pieces : List Piece}
    (hpieces : pieces.map Piece.tag = tags) : ∃ nodes, Makes pieces nodes := by
  induction h generalizing pieces with
  | nil =>
    obtain rfl := List.map_eq_nil_iff.mp hpieces
    exact ⟨[], .nil⟩
  | print _ ih =>
    obtain ⟨⟨front, tag⟩, more, rfl, rfl, hmore⟩ := List.map_eq_cons_iff.mp hpieces
    obtain ⟨nodes, hnodes⟩ := ih hmore
    exact ⟨_, .print hnodes⟩
  | choice _ _ ihInner ihMore =>
    obtain ⟨⟨front, tag⟩, rest, rfl, rfl, hrest⟩ := List.map_eq_cons_iff.mp hpieces
    obtain ⟨inner, behind, rfl, hinner, hbehind⟩ := List.map_eq_append_iff.mp hrest
    obtain ⟨⟨last, tag⟩, more, rfl, rfl, hmore⟩ := List.map_eq_cons_iff.mp hbehind
    obtain ⟨yes, hyes⟩ := ihInner hinner
    obtain ⟨nodes, hnodes⟩ := ihMore hmore
    exact ⟨_, .choice hyes hnodes⟩

namespace Parser

/-! ## Single statements -/

/-- One step of the parser of statements. -/
def statementStep (body : Body) (c : Context) (tags : Option (List String))
    (nodes : List Node) : Parser (List Node × Bool) := do
  match ← peek with
  | .data t =>
    let _ ← next
    pure (nodes ++ [.text t], true)
  | .openPrint =>
    let _ ← next
    let e ← tupleOf expression false
    let _ ← expectEnd .closePrint
    pure (nodes ++ [.print e], true)
  | .openBlock =>
    let _ ← next
    let tok ← peek
    if (tags.getD []).any tok.isWord then pure (nodes, false)
    else
      let node ← statement body c
      let _ ← expectEnd .closeBlock
      pure (nodes ++ [node], true)
  | _ => pure (nodes, false)

/-- To parse statements is to repeat one step. -/
theorem statements_eq (body : Body) (c : Context) (tags : Option (List String)) :
    statements body c tags = loop (statementStep body c tags) [] := rfl

section

variable {body : Body} {c : Context} {tags : Option (List String)} {nodes : List Node}
  {toks after : List Tok}

/-- The token of a text is taken as the statement for this text. -/
theorem takes_data (t : Text) :
    Takes (statementStep body c tags nodes) (.data t :: toks) toks (nodes ++ [.text t], true) :=
  Takes.bind (Takes.peek _) (Takes.next fun _ => Takes.pure _ _)

/-- A print of a name that is no keyword is taken as the statement for it. -/
theorem takes_print {n : Text} (hfree : n ∉ keywords) :
    Takes (statementStep body c tags nodes) (.openPrint :: .name n :: .closePrint :: toks) toks
      (nodes ++ [.print (.name n)], true) := by
  have hend : AtEnd (.closePrint :: toks) := .inl rfl
  refine Takes.bind (Takes.peek _) (Takes.next fun _ => ?_)
  refine Takes.bind (takes_tupleOf hend (takes_expression hfree hend)) ?_
  exact Takes.expect rfl fun _ => Takes.pure _ _

/-- The tags that can follow the first branch of a choice. -/
def branchTags : List String := ["elif", "else", "endif"]

/-- A choice without another branch, if its body is parsed up to its end. -/
theorem takes_choice {n : Text} (hfree : n ∉ keywords)
    (htags : (tags.getD []).any (Tok.name "if".toList).isWord = false) {inner : List Tok}
    {yes : List Node}
    (hbody : ∀ within, Takes (body within (some branchTags)) inner
      (.name "endif".toList :: .closeBlock :: toks) yes) :
    Takes (statementStep body c tags nodes)
      (.openBlock :: .name "if".toList :: .name n :: .closeBlock :: inner) toks
      (nodes ++ [.choose (.name n) yes [] false], true) := by
  have hend : AtEnd (.closeBlock :: inner) := .inr rfl
  have hblock (within : Context) : Takes (blockBody body within branchTags) (.closeBlock :: inner)
      (.name "endif".toList :: .closeBlock :: toks) yes := by
    refine Takes.bind (hend.skipIf rfl rfl) (Takes.expect rfl fun _ => ?_)
    exact Takes.bind (hbody _) (Takes.bind (Takes.peek _) (Takes.pure _ _))
  have hchoose (within : Context) (k : Nat) : Takes (chooseFrom body within (k + 1))
      (.name n :: .closeBlock :: inner) (.closeBlock :: toks) (.choose (.name n) yes [] false) := by
    refine Takes.bind (takes_tupleOf hend (takes_plainExpression hfree hend)) ?_
    exact Takes.bind (hblock within) (Takes.next fun _ => Takes.pure _ _)
  have hstatement : Takes (statement body c)
      (.name "if".toList :: .name n :: .closeBlock :: inner) (.closeBlock :: toks)
      (.choose (.name n) yes [] false) := by
    refine Takes.line fun _ => Takes.bind (Takes.peek _) (Takes.next fun _ => ?_)
    exact Takes.depthLeft fun k => hchoose _ k
  refine Takes.bind (Takes.peek _) (Takes.next fun _ => Takes.bind (Takes.peek _) ?_)
  rw [firstTok, htags, if_neg Bool.false_ne_true]
  exact Takes.bind hstatement (Takes.expect rfl fun _ => Takes.pure _ _)

/-- The parser stops behind the start of a wanted tag. -/
theorem takes_wanted {word : Text} (htags : (tags.getD []).any (Tok.name word).isWord = true) :
    Takes (statementStep body c tags nodes) (.openBlock :: .name word :: toks)
      (.name word :: toks) (nodes, false) := by
  refine Takes.bind (Takes.peek _) (Takes.next fun _ => Takes.bind (Takes.peek _) ?_)
  rw [firstTok, htags, if_pos rfl]
  exact Takes.pure _ _

/-- At the end of the template there is no further statement. -/
theorem takes_end : Takes (statementStep body c tags nodes) [] [] (nodes, false) :=
  Takes.bind (Takes.peek _) (Takes.pure _ _)

/-! ## All statements of a skeleton -/

/-- Text is copied by at most one statement. -/
theorem Loops.data (t : Text) {result : List Node}
    (h : Loops (statementStep body c tags) (nodes ++ copyNodes t) toks after result) :
    Loops (statementStep body c tags) nodes (dataToks t ++ toks) after result := by
  cases t with
  | nil => simpa [copyNodes, dataToks] using h
  | cons d t => exact Loops.again (takes_data (d :: t)) (by simp [dataToks]) h

end

/-- The tokens of pieces begin with those of the text and the tag of the first one. -/
theorem pieceToks_cons (p : Piece) (more : List Piece) :
    pieceToks (p :: more) = dataToks p.front ++ (p.tag.toks ++ pieceToks more) := by
  simp [pieceToks]

/-- Pieces in two groups have the tokens of the first and those of the second. -/
theorem pieceToks_append (pieces more : List Piece) :
    pieceToks (pieces ++ more) = pieceToks pieces ++ pieceToks more := by
  simp [pieceToks]

/-- The statements of pieces are parsed one by one.  A choice is parsed in a single step, which
takes one level of depth. -/
theorem Loops.pieces {pieces : List Piece} {nodes : List Node} (h : Makes pieces nodes)
    {depth : Nat} (hdepth : pieces.length ≤ depth) (c : Context) {tags : Option (List String)}
    (htags : (tags.getD []).any (Tok.name "if".toList).isWord = false) {found result : List Node}
    {toks after : List Tok}
    (hrest : Loops (statementStep (statementsWithin depth) c tags) (found ++ nodes) toks after
      result) :
    Loops (statementStep (statementsWithin depth) c tags) found (pieceToks pieces ++ toks) after
      result := by
  -- a choice calls for two hypotheses: one for its body, a level below, and one for what follows
  induction h generalizing depth c tags found result toks after with
  | nil => simpa [pieceToks] using hrest
  | @print front before after' v more nodes _ ih =>
    rw [pieceToks_cons, List.append_assoc, List.append_assoc]
    refine Loops.data front (Loops.again (takes_print v.free) (by simp [Tag.toks]; omega) ?_)
    refine ih (by simp at hdepth; omega) c htags ?_
    simpa using hrest
  | @choice front last before between after' before' after'' v apart inner more yes nodes _ _
      ihInner ihMore =>
    simp only [List.length_cons, List.length_append] at hdepth
    rw [pieceToks_cons, pieceToks_append, pieceToks_cons]
    simp only [Tag.toks, List.append_assoc]
    obtain ⟨depth, rfl⟩ : ∃ d, depth = d + 1 := ⟨depth - 1, by omega⟩
    have hinner (within : Context) :
        Takes (statementsWithin (depth + 1) within (some branchTags))
          (pieceToks inner ++ (dataToks last ++ (.openBlock :: .name "endif".toList ::
            .closeBlock :: (pieceToks more ++ toks))))
          (.name "endif".toList :: .closeBlock :: (pieceToks more ++ toks))
          (yes ++ copyNodes last) := by
      rw [statementsWithin, statements_eq]
      refine Takes.loop (ihInner (by omega) within (by decide) ?_)
      exact Loops.data last (Loops.stop (takes_wanted (by decide)))
    refine Loops.data front (Loops.again (takes_choice v.free htags hinner) ?_ ?_)
    · simp
      omega
    · refine ihMore (by omega) c htags ?_
      simpa using hrest

end Parser

/-- Every piece has a token, that of its tag. -/
theorem length_le_pieceToks (pieces : List Piece) :
    pieces.length ≤ (pieceToks pieces).length := by
  induction pieces with
  | nil => simp
  | cons p more ih =>
    have htag : 0 < p.tag.toks.length := by
      cases p.tag <;> simp [Tag.toks]
    rw [Parser.pieceToks_cons]
    simp only [List.length_append, List.length_cons]
    omega

/-- The statements of a skeleton are those of its pieces, and one that copies the text behind
them. -/
theorem parseTokens_pieces {pieces : List Piece} {nodes : List Node} (h : Makes pieces nodes)
    (tail : Text) {t : Tokens} (hflaw : t.flaw = none)
    (htoks : t.tokens.map Token.tok = pieceToks pieces ++ dataToks tail) :
    parseTokens t = .ok (nodes ++ copyNodes tail) := by
  have hstart : Stream.At ⟨⟨.eof, 1⟩, t.tokens, t.flaw⟩
      (.eof :: (pieceToks pieces ++ (dataToks tail ++ []))) :=
    ⟨hflaw, rfl, by rw [htoks, List.append_nil]⟩
  obtain ⟨start, hadvance, hat⟩ := Parser.advance_of_at hstart
  have hdepth : pieces.length ≤ t.tokens.length + 1 := by
    have hlength := congrArg List.length htoks
    have hpieces := length_le_pieceToks pieces
    simp only [List.length_map, List.length_append] at hlength
    omega
  have hloops : Parser.Loops
      (Parser.statementStep (Parser.statementsWithin (t.tokens.length + 1)) ⟨[], []⟩ none) []
      (pieceToks pieces ++ (dataToks tail ++ [])) [] (nodes ++ copyNodes tail) :=
    Parser.Loops.pieces h hdepth _ rfl
      (Parser.Loops.data tail (Parser.Loops.stop Parser.takes_end))
  obtain ⟨later, hrun, -⟩ := Parser.Takes.loop hloops start hat
  unfold parseTokens
  rw [hadvance]
  show (Parser.statementsWithin (t.tokens.length + 2) ⟨[], []⟩ none start >>=
    fun result => pure result.1) = _
  rw [Parser.statementsWithin, Parser.statements_eq, hrun]
  rfl

end ShaderCompose.Template
