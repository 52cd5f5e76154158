import ShaderCompose.Proofs.Template.Statements

/-!
# Names that cannot be read

Marks that are newer than the words of templates can stand in a name, but no word goes on with one.
So a print of such a name breaks off: the part in front of the mark is read as a name, and at the
mark itself there is no token.  The parser has nothing but this name to go on, whatever the name is,
and gets to the flaw behind it.
-/

set_option autoImplicit false

namespace ShaderCompose.Template

/-! ## Reading up to a late mark -/

/-- Some flaw of the grammar. -/
def Ungrammatical (flaw : Option RenderError) : Prop := ∃ e, flaw = some (.grammar e)

section

variable {c : Char} {mode : Mode} {rest : Text}

/-- No symbol starts with a late mark. -/
theorem takeSym?_of_lateMark (hc : Text.LateMark c) (rest : Text) :
    takeSym? (c :: rest) = none := by
  have hheads : (Sym.spellings.all fun entry =>
      entry.1.head?.any fun d => !Text.isNameChar d) = true := by decide +kernel
  refine List.findSome?_eq_none_iff.mpr fun entry hentry => ?_
  have hhead := List.all_eq_true.mp hheads entry hentry
  obtain ⟨spelling, s⟩ := entry
  cases spelling with
  | nil => contradiction
  | cons d spelling =>
    have hd : c ≠ d := hc.ne (by simpa using hhead)
    simp [Text.dropStart?, hd]

/-- No word starts with a late mark. -/
theorem takeWord?_of_lateMark (hc : Text.LateMark c) (rest : Text) :
    takeWord? false (c :: rest) = none := by
  have hsingle : c ≠ '\'' := hc.ne (by decide +kernel)
  have hdouble : c ≠ '"' := hc.ne (by decide +kernel)
  unfold takeWord?
  simp only [Bool.false_eq_true, if_false, decimal?_eq_none hc.isDigit, integer?_eq_none hc.isDigit,
    List.takeWhile_cons, hc.apart]
  split
  · simp_all
  · simp_all
  · rfl

/-- No end of a tag starts with a late mark. -/
theorem notMem_endStarts_of_lateMark (hc : Text.LateMark c) : c ∉ endStarts :=
  notMem_of_all (by decide +kernel) hc.isNameChar

/-- There is no token at a late mark. -/
theorem ReadsAs.lateMark (hmode : mode ≠ .outside) (hc : Text.LateMark c) :
    ReadsAs Ungrammatical mode (c :: rest) [] := by
  intro steps position line hsteps
  obtain ⟨steps, rfl⟩ := Nat.exists_eq_succ_of_ne_zero (Nat.ne_zero_of_lt hsteps)
  have hend := takeEnd?_eq_none mode (notMem_endStarts_of_lateMark hc) rest
  have hstep : ∃ e, stepInside mode false ⟨c :: rest, position, line⟩ = .fail [] (.grammar e) := by
    simp only [stepInside, hend, Text.isBlank_of_isNameChar hc.isNameChar,
      takeWord?_of_lateMark hc, takeSym?_of_lateMark hc, Bool.false_eq_true, if_false]
    exact ⟨_, rfl⟩
  obtain ⟨e, he⟩ := hstep
  cases mode with
  | outside => exact absurd rfl hmode
  | inBlock _ =>
    simp only [readTokens, he]
    exact ⟨rfl, e, rfl⟩
  | inPrint _ =>
    simp only [readTokens, he]
    exact ⟨rfl, e, rfl⟩

end

/-- A name that is no word starts with a word that is a name, with a late mark behind it. -/
theorem exists_lateMark {v : Text} (hname : Text.isName v = true)
    (hword : ¬Text.IsWord v) :
    ∃ word c rest, v = word ++ c :: rest ∧ Text.isName word = true ∧ Text.IsWord word ∧
      Text.LateMark c := by
  have hsplit := List.takeWhile_append_dropWhile (p := Text.isWordChar) (l := v)
  have htake : Text.IsWord (v.takeWhile Text.isWordChar) := fun d hd => List.mem_takeWhile_imp hd
  have hchar : ∀ d ∈ v, Text.isNameChar d = true := fun d hd => Text.isNameChar_of_isName hname hd
  cases hdrop : v.dropWhile Text.isWordChar with
  | nil =>
    exact absurd (List.dropWhile_eq_nil_iff.mp hdrop) hword
  | cons c rest =>
    rw [hdrop] at hsplit
    have hlate : Text.isWordChar c = false := by
      have hhead := List.head?_dropWhile_not Text.isWordChar v
      simpa [hdrop] using hhead
    refine ⟨v.takeWhile Text.isWordChar, c, rest, hsplit.symm, ?_, htake,
      hchar c (hsplit ▸ by simp), hlate⟩
    cases v with
    | nil => simp at hdrop
    | cons d v =>
      have hstart := Text.isNameStart_of_isName hname
      rw [List.takeWhile_cons_of_pos (Text.isWordChar_of_isNameStart hstart)]
      simp only [Text.isName, hstart, Bool.true_and, List.all_eq_true]
      exact fun k hk => hchar k (List.mem_cons_of_mem d (List.takeWhile_subset _ hk))

/-! ## Parsing up to a flaw -/

namespace Parser

section

variable {α β : Type} {p : Parser α} {f : α → Parser β} {a : α} {s t : Stream} {e : RenderError}

/-- If the first of two parsers fails, then so do both together. -/
theorem bind_of_error (h : p s = .error e) : (p >>= f) s = .error e := by
  show (p s >>= fun result => f result.1 result.2) = _
  rw [h]
  rfl

/-- If the second one fails where the first one ends, then so do both together. -/
theorem bind_of_ok (hp : p s = .ok (a, t)) (hf : f a t = .error e) :
    (p >>= f) s = .error e := by
  show (p s >>= fun result => f result.1 result.2) = _
  rw [hp]
  exact hf

/-- A loop whose step fails at the start fails. -/
theorem loop_of_error {step : α → Parser (α × Bool)} (h : step a s = .error e) :
    loop step a s = .error e := bind_of_error h

end

section

variable {w : Text} {line : Nat} {e : RenderError} {expr item : Parser Expr}

/-- A stream at a name that is the last token in front of a flaw. -/
def atFlaw (w : Text) (line : Nat) (e : RenderError) : Stream := ⟨⟨.name w, line⟩, [], some e⟩

/-- The flaw shows when the name is taken, which operands do before anything else. -/
theorem comparisons_atFlaw : comparisons expr (atFlaw w line e) = .error e := rfl

/-- At a name in front of a flaw, a negation fails with the flaw. -/
theorem negations_atFlaw : negations expr (atFlaw w line e) = .error e := by
  by_cases hnot : w = "not".toList
  · -- the word is taken for the negation of what should follow it
    rw [hnot]
    rfl
  · have hskip : skipWord "not" (atFlaw w line e) = .ok (false, atFlaw w line e) := by
      show (if (Tok.name w).isWord "not" = true then (next >>= fun _ => pure true)
        else pure false : Parser Bool) _ = _
      rw [isWord_eq_false hnot]
      rfl
    refine bind_of_ok (a := 0) (t := atFlaw w line e) ?_ (bind_of_error comparisons_atFlaw)
    show ((skipWord "not" (atFlaw w line e) >>= _) >>= _) = _
    rw [hskip]
    rfl

/-- At a name in front of a flaw, an expression fails with the flaw. -/
theorem expression_atFlaw : expression (atFlaw w line e) = .error e := by
  have hdisjunctions (expr : Parser Expr) : disjunctions expr (atFlaw w line e) = .error e :=
    bind_of_error (bind_of_error negations_atFlaw)
  exact bind_of_ok rfl (bind_of_ok rfl (bind_of_error (hdisjunctions _)))

/-- At a name in front of a flaw, a tuple fails with the flaw if its items do. -/
theorem tupleOf_atFlaw (h : item (atFlaw w line e) = .error e) :
    tupleOf item false (atFlaw w line e) = .error e := by
  refine bind_of_error (bind_of_ok rfl (loop_of_error ?_))
  exact bind_of_ok rfl (bind_of_error h)

/-- A print of a name in front of a flaw fails with the flaw. -/
theorem print_atFlaw {body : Body} {c : Context} {tags : Option (List String)}
    {nodes : List Node} (start : Nat) :
    statementStep body c tags nodes ⟨⟨.openPrint, start⟩, [⟨.name w, line⟩], some e⟩ =
      .error e :=
  bind_of_ok rfl (bind_of_ok rfl (bind_of_error (tupleOf_atFlaw expression_atFlaw)))

end

end Parser

/-- A template whose statements fail fails to be parsed. -/
theorem parseTokens_of_error {t : Tokens} {start : Stream} {e : RenderError}
    (hstart : Parser.advance ⟨⟨.eof, 1⟩, t.tokens, t.flaw⟩ = .ok start)
    (h : ∀ body, Parser.statements body ⟨[], []⟩ none start = .error e) :
    parseTokens t = .error e := by
  unfold parseTokens
  rw [hstart]
  show (Parser.statements _ _ _ start >>= fun result => pure result.1) = _
  rw [h]
  rfl

/-- The parser gets to a flaw behind the name in a print. -/
theorem parseTokens_atFlaw {t : Tokens} {front w : Text} {e : RenderError}
    (hflaw : t.flaw = some e)
    (htoks : t.tokens.map Token.tok = dataToks front ++ [.openPrint, .name w]) :
    parseTokens t = .error e := by
  obtain ⟨tokens, flaw⟩ := t
  obtain rfl : flaw = some e := hflaw
  obtain ⟨data, print, rfl, hdata, hprint⟩ := List.map_eq_append_iff.mp htoks
  obtain ⟨⟨_, start⟩, name, rfl, rfl, hname⟩ := List.map_eq_cons_iff.mp hprint
  obtain ⟨⟨_, line⟩, rfl, rfl⟩ := List.map_eq_singleton_iff.mp hname
  cases front with
  | nil =>
    obtain rfl : data = [] := List.map_eq_nil_iff.mp hdata
    exact parseTokens_of_error rfl fun body => Parser.loop_of_error (Parser.print_atFlaw start)
  | cons c front =>
    obtain ⟨⟨_, first⟩, rfl, rfl⟩ := List.map_eq_singleton_iff.mp hdata
    refine parseTokens_of_error rfl fun body => ?_
    exact Parser.bind_of_ok rfl (Parser.bind_of_error (Parser.print_atFlaw start))

/-- Filling in fails with an error of the template if this is all that is read of it. -/
theorem fill_of_ungrammatical {t front w : Text} (hreturn : '\r' ∉ t)
    (hreads : ReadsAs Ungrammatical .outside t (dataToks front ++ [.openPrint, .name w]))
    {vars : Bindings} (hvars : ∀ entry ∈ vars, entry.1 ≠ "code".toList) :
    ∃ message, fill t vars = .error (.effect (.template message)) := by
  have hcode : vars.any (·.1 == "code".toList) = false := any_name_eq_false hvars
  obtain ⟨htoks, e, hflaw⟩ := hreads.tokenize hreturn
  have hplan : plan t = .error (.grammar e) := by
    unfold plan
    rw [parseTokens_atFlaw hflaw htoks]
    rfl
  unfold fill checkNames render
  rw [hcode, hplan]
  exact ⟨_, rfl⟩

/-- A name that is no word is read up to its first late mark. -/
theorem readsAs_lateMark {front v : Text} (rest : Text) (hfree : TagFree front)
    (hlast : front.getLast? ≠ some '\x7b') (hname : Text.isName v = true)
    (hword : ¬Text.IsWord v) :
    ∃ w, ReadsAs Ungrammatical .outside (front ++ ("\x7b\x7b".toList ++ (space.text ++ (v ++ rest))))
      (dataToks front ++ [.openPrint, .name w]) := by
  obtain ⟨word, c, more, rfl, hnamed, hchars, hlate⟩ := exists_lateMark hname hword
  refine ⟨word, ReadsAs.openPrint hfree hlast (notMem_endStarts_of_name space hname rest) ?_⟩
  rw [List.append_assoc, List.cons_append]
  exact ReadsAs.paddedName (by simp) space hnamed hchars (by simp [hlate.apart])
    (ReadsAs.lateMark (by simp) hlate)

end ShaderCompose.Template
