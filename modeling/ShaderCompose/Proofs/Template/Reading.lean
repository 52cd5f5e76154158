import ShaderCompose.Proofs.Lists
import ShaderCompose.Proofs.Template.Skeleton

/-!
# The tokens of a skeleton

A text is read step by step, and what a step does depends on the text that is left only.  So the
tokens of a skeleton are those of its parts in turn: its texts are copied up to the next tag, and a
tag stands for its delimiters with a word or two between them, whatever blanks it is written with.
-/

set_option autoImplicit false

namespace ShaderCompose.Template

variable {ends : Option RenderError → Prop}

/-! ## Steps -/

/-- One step of reading, behind something that is no dot. -/
def stepFrom (mode : Mode) (c : Cursor) : Step :=
  match mode with
  | .outside => stepOutside c
  | _ => stepInside mode false c

/-- A step that finds tokens and goes on in a mode with the text that is left. -/
def Step.Goes (step : Step) (found : List Tok) (mode : Mode) (rest : Text) : Prop :=
  ∃ tokens next, step = .go tokens mode next ∧ tokens.map Token.tok = found ∧ next.rest = rest

/-- Reading on from a text finds the tokens and ends in a certain way, wherever in a template the
text stands. -/
def ReadsAs (ends : Option RenderError → Prop) (mode : Mode) (t : Text) (toks : List Tok) : Prop :=
  ∀ steps position line, t.length < steps →
    (readTokens steps mode false ⟨t, position, line⟩).tokens.map Token.tok = toks ∧
      ends (readTokens steps mode false ⟨t, position, line⟩).flaw

/-- Reading goes on step by step; only a dot makes a difference to the step behind it. -/
theorem readTokens_succ {mode next : Mode} {c later : Cursor} {tokens : List Token}
    (h : stepFrom mode c = .go tokens next later) (hdot : tokens.map Token.tok ≠ [.sym .dot])
    (steps : Nat) :
    readTokens (steps + 1) mode false c =
      ⟨tokens ++ (readTokens steps next false later).tokens,
        (readTokens steps next false later).flaw⟩ := by
  cases mode
  all_goals
    simp only [stepFrom] at h
    simp only [readTokens, h]
    split
    · exact absurd rfl hdot
    · rfl

section

variable {mode next : Mode} {t rest : Text} {toks : List Tok}

/-- The tokens of a step, and then those of the text that it leaves. -/
theorem ReadsAs.step (found : List Tok)
    (hstep : ∀ position line, (stepFrom mode ⟨t, position, line⟩).Goes found next rest)
    (hdot : found ≠ [.sym .dot]) (hshort : rest.length < t.length)
    (hrest : ReadsAs ends next rest toks) : ReadsAs ends mode t (found ++ toks) := by
  intro steps position line hsteps
  obtain ⟨steps, rfl⟩ := Nat.exists_eq_succ_of_ne_zero (Nat.ne_zero_of_lt hsteps)
  obtain ⟨tokens, later, hgo, rfl, rfl⟩ := hstep position line
  obtain ⟨htokens, hflaw⟩ := hrest steps later.position later.line (by omega)
  rw [readTokens_succ hgo hdot]
  exact ⟨by rw [List.map_append, htokens], hflaw⟩

end

/-! ## Inside a tag -/

section

variable {mode : Mode} {rest : Text} {toks : List Tok}

/-- The characters that the end of a tag can start with. -/
def endStarts : List Char := ['$', '-', '+', '\x7d']

/-- No end of a tag starts with a blank. -/
theorem notMem_endStarts_of_isBlank {c : Char} (h : Text.isBlank c = true) : c ∉ endStarts :=
  notMem_of_all (by decide) h

/-- No end of a tag starts with what a name starts with. -/
theorem notMem_endStarts_of_isNameStart {c : Char} (h : Text.isNameStart c = true) :
    c ∉ endStarts :=
  notMem_of_all (by decide +kernel) h

/-- Where no end of a tag can start, none is found. -/
theorem takeEnd?_eq_none (mode : Mode) {c : Char} (hc : c ∉ endStarts) (t : Text) :
    takeEnd? mode (c :: t) = none := by
  simp only [endStarts, List.mem_cons, List.not_mem_nil, or_false, not_or] at hc
  obtain ⟨hdollar, hminus, hplus, hbrace⟩ := hc
  unfold takeEnd?
  split
  · simp [dropBlockEnd?, hdollar, hminus, hplus]
  · simp [dropPrintEnd?, hminus, hbrace]
  · rfl

/-- Inside a tag, a step goes by the rules for the inside. -/
theorem stepFrom_of_ne_outside (hmode : mode ≠ .outside) (c : Cursor) :
    stepFrom mode c = stepInside mode false c := by
  cases mode with
  | outside => exact absurd rfl hmode
  | inBlock _ => rfl
  | inPrint _ => rfl

/-- Blanks inside a tag are skipped. -/
theorem ReadsAs.blanks (hmode : mode ≠ .outside) {blanks : Text} (hblank : blanks.Blank)
    (hend : ∀ c ∈ rest.head?, Text.isBlank c = false) (hrest : ReadsAs ends mode rest toks) :
    ReadsAs ends mode (blanks ++ rest) toks := by
  cases blanks with
  | nil => exact hrest
  | cons b blanks =>
    have hb : Text.isBlank b = true := hblank b List.mem_cons_self
    have hnoEnd : b ∉ endStarts := notMem_endStarts_of_isBlank hb
    refine ReadsAs.step [] (fun position line => ?_) (by simp)
      (length_lt_append (List.cons_ne_nil b blanks) rest) hrest
    refine ⟨[], Cursor.moveTo ⟨b :: blanks ++ rest, position, line⟩ rest, ?_, rfl, rfl⟩
    rw [stepFrom_of_ne_outside hmode]
    unfold stepInside
    simp only [List.cons_append, takeEnd?_eq_none mode hnoEnd, hb, if_true]
    rw [← List.cons_append, Text.stripStart, (hblank.takeWhile hend).2]

/-- There is no number where there is no digit. -/
theorem decimal?_eq_none {c : Char} (hdigit : Text.isDigit c = false) (t : Text) :
    Literal.decimal? (c :: t) = none := by
  unfold Literal.decimal?
  have hgroups : Literal.digitGroups Text.isDigit (c :: t) = ([], c :: t) := by
    unfold Literal.digitGroups
    split
    · contradiction
    · simp_all
    · simp_all
  rw [hgroups]

/-- No number starts with anything but a digit. -/
theorem integer?_eq_none {c : Char} (hdigit : Text.isDigit c = false) (t : Text) :
    Literal.integer? (c :: t) = none := by
  have hascii : ¬('0' ≤ c ∧ c ≤ '9') := by
    rintro ⟨hlow, hhigh⟩
    have hcode : ∃ code ∈ Text.zeroCodes, code ≤ c.toNat ∧ c.toNat ≤ code + 9 :=
      ⟨48, by decide, hlow, hhigh⟩
    rw [← Text.isDigit_iff, hdigit] at hcode
    exact Bool.false_ne_true hcode
  have hzero : c ≠ '0' := by
    rintro rfl
    exact hascii (by decide)
  have hother : ¬('1' ≤ c ∧ c ≤ '9') := fun hone =>
    hascii ⟨Char.le_trans (show '0' ≤ '1' by decide) hone.1, hone.2⟩
  unfold Literal.integer?
  split
  · rename_i heq
    exact absurd (List.cons.inj heq).1 hzero
  · rename_i heq
    obtain ⟨rfl, rfl⟩ := List.cons.inj heq
    rw [if_neg hother]
  · contradiction

/-- A name is read off whole. -/
theorem takeWord?_name {word : Text} (hname : Text.isName word = true)
    (hword : Text.IsWord word)
    (hend : ∀ c ∈ rest.head?, Text.isWordChar c = false) :
    takeWord? false (word ++ rest) = some (.ok (.name word), rest) := by
  cases word with
  | nil => simp [Text.isName] at hname
  | cons c word =>
    have hdigit : Text.isDigit c = false :=
      Text.isDigit_of_isNameStart (Text.isNameStart_of_isName hname)
    obtain ⟨htake, hdrop⟩ := Text.takeWhile_run hword hend
    unfold takeWord?
    rw [htake, hdrop, List.cons_append, decimal?_eq_none hdigit, integer?_eq_none hdigit]
    simp [hname]

/-- A name inside a tag, and then what is behind it. -/
theorem ReadsAs.name (hmode : mode ≠ .outside) {word : Text} (hname : Text.isName word = true)
    (hword : Text.IsWord word)
    (hend : ∀ c ∈ rest.head?, Text.isWordChar c = false) (hrest : ReadsAs ends mode rest toks) :
    ReadsAs ends mode (word ++ rest) (.name word :: toks) := by
  have htake := takeWord?_name hname hword hend
  cases word with
  | nil => simp [Text.isName] at hname
  | cons c word =>
    have hstart : Text.isNameStart c = true := Text.isNameStart_of_isName hname
    have hnoEnd : c ∉ endStarts := notMem_endStarts_of_isNameStart hstart
    refine ReadsAs.step [.name (c :: word)] (fun position line => ?_) (by simp)
      (length_lt_append (List.cons_ne_nil c word) rest) hrest
    refine ⟨[⟨.name (c :: word), line⟩], Cursor.moveTo ⟨c :: word ++ rest, position, line⟩ rest,
      ?_, rfl, rfl⟩
    rw [stepFrom_of_ne_outside hmode]
    unfold stepInside
    rw [List.cons_append] at htake ⊢
    simp only [takeEnd?_eq_none mode hnoEnd, Text.isBlank_of_isNameStart hstart, htake,
      Bool.false_eq_true, if_false]

/-- The end of a block, and then what is behind it. -/
theorem ReadsAs.closeBlock (hrest : ReadsAs ends .outside rest toks) :
    ReadsAs ends (.inBlock []) ("$\x7d".toList ++ rest) (.closeBlock :: toks) := by
  refine ReadsAs.step [.closeBlock] (fun position line => ?_) (by simp)
    (length_lt_append (by decide) rest) hrest
  exact ⟨_, _, rfl, rfl, rfl⟩

/-- The end of a print, and then what is behind it. -/
theorem ReadsAs.closePrint (hrest : ReadsAs ends .outside rest toks) :
    ReadsAs ends (.inPrint []) ("\x7d\x7d".toList ++ rest) (.closePrint :: toks) := by
  refine ReadsAs.step [.closePrint] (fun position line => ?_) (by simp)
    (length_lt_append (by decide) rest) hrest
  exact ⟨_, _, rfl, rfl, rfl⟩

end

/-! ## Outside tags -/

/-- The token for some text. -/
def dataToks (t : Text) : List Tok := if t.isEmpty then [] else [.data t]

/-- The token of a text does not depend on the line of the text. -/
theorem map_dataTokens (t : Text) (line : Nat) :
    (dataTokens t line).map Token.tok = dataToks t := by
  unfold dataTokens dataToks
  split <;> rfl

/-- Text without opening delimiters is passed over in the search for one, unless its end and the
delimiter make another one. -/
theorem findOpening_append {t u rest : Text} {opening : Opening} (hfree : TagFree t)
    (hlast : t.getLast? ≠ some '\x7b') (h : findOpening u = some ([], opening, rest)) :
    findOpening (t ++ u) = some (t, opening, rest) := by
  induction t with
  | nil => exact h
  | cons c t ih =>
    have htail : TagFree t := fun delimiter hmem hwithin =>
      hfree delimiter hmem (hwithin.trans (List.suffix_cons c t).isInfix)
    have hnext : ∀ d rest', [c, d] ∈ openings → t ++ u = d :: rest' → False := by
      intro d rest' hmem heq
      cases t with
      | nil =>
        have hbrace : c ≠ '\x7b' := by simpa using hlast
        simp [openings, hbrace] at hmem
      | cons e t =>
        obtain rfl : e = d := (List.cons.inj heq).1
        exact hfree [c, e] hmem ⟨[], t, rfl⟩
    have hlastTail : t.getLast? ≠ some '\x7b' := by
      cases t with
      | nil => simp
      | cons e t => simpa using hlast
    rw [List.cons_append, findOpening, ih htail hlastTail]
    · rfl
    · intro rest' hc heq
      subst hc
      exact hnext '$' rest' (by decide) heq
    · intro rest' hc heq
      subst hc
      exact hnext '\x7b' rest' (by decide) heq
    · intro rest' hc heq
      subst hc
      exact hnext '#' rest' (by decide) heq

/-- Where no end of a tag can start, there is no sign of whitespace control. -/
theorem takeSign_eq_none {t : Text} (h : ∀ c ∈ t.head?, c ∉ endStarts) :
    takeSign t = (.none, t) := by
  unfold takeSign
  split
  · exact absurd (by decide) (h '-' rfl)
  · exact absurd (by decide) (h '+' rfl)
  · rfl

section

variable {front body : Text} {toks : List Tok}

/-- The text in front of a tag, its opening delimiter, and then what is behind it. -/
theorem ReadsAs.opened {delimiter : Text} {mode : Mode} {tok : Tok} (htok : tok ≠ .sym .dot)
    (hdelimiter : delimiter ≠ [])
    (hstep : ∀ position line, stepOutside ⟨front ++ (delimiter ++ body), position, line⟩ =
      .go (dataTokens front line ++ [⟨tok, lineAfter line front⟩]) mode
        (Cursor.moveTo ⟨front ++ (delimiter ++ body), position, line⟩ body))
    (hbody : ReadsAs ends mode body toks) :
    ReadsAs ends .outside (front ++ (delimiter ++ body)) (dataToks front ++ tok :: toks) := by
  rw [List.append_cons]
  refine ReadsAs.step _ (fun position line => ?_) ?_ ?_ hbody
  · refine ⟨_, _, hstep position line, ?_, rfl⟩
    rw [List.map_append, map_dataTokens]
    rfl
  · unfold dataToks
    split <;> simp [htok]
  · have hbehind := length_lt_append hdelimiter body
    simp only [List.length_append] at hbehind ⊢
    omega

/-- Text up to a tag that prints is read as this text, and then the inside of the tag is read. -/
theorem ReadsAs.openPrint (hfree : TagFree front) (hlast : front.getLast? ≠ some '\x7b')
    (hstart : ∀ c ∈ body.head?, c ∉ endStarts) (hbody : ReadsAs ends (.inPrint []) body toks) :
    ReadsAs ends .outside (front ++ ("\x7b\x7b".toList ++ body))
      (dataToks front ++ .openPrint :: toks) := by
  have hfind : findOpening (front ++ ("\x7b\x7b".toList ++ body)) = some (front, .print, body) :=
    findOpening_append hfree hlast rfl
  refine ReadsAs.opened (by decide) (by decide) (fun position line => ?_) hbody
  simp only [stepOutside, hfind, takeSign_eq_none hstart]
  rfl

/-- A block is opened unless it is a raw one. -/
theorem ReadsAs.openBlock (hfree : TagFree front) (hlast : front.getLast? ≠ some '\x7b')
    (hstart : ∀ c ∈ body.head?, c ∉ endStarts) (hraw : dropRawTag? body = none)
    (hbody : ReadsAs ends (.inBlock []) body toks) :
    ReadsAs ends .outside (front ++ ("\x7b$".toList ++ body))
      (dataToks front ++ .openBlock :: toks) := by
  have hfind : findOpening (front ++ ("\x7b$".toList ++ body)) = some (front, .block, body) :=
    findOpening_append hfree hlast rfl
  refine ReadsAs.opened (by decide) (by decide) (fun position line => ?_) hbody
  simp only [stepOutside, hfind, takeSign_eq_none hstart, hraw]
  rfl

end

/-- Text without opening delimiters ends a template, and nothing is wrong with it. -/
theorem ReadsAs.tail {t : Text} (hfree : TagFree t) :
    ReadsAs (· = none) .outside t (dataToks t) := by
  intro steps position line hsteps
  obtain ⟨steps, rfl⟩ := Nat.exists_eq_succ_of_ne_zero (Nat.ne_zero_of_lt hsteps)
  have hnone := (findOpening_eq_none_iff t).mpr hfree
  simp only [readTokens, stepOutside, hnone]
  exact ⟨map_dataTokens t line, trivial⟩

/-! ## Skeletons -/

/-- The tokens of a tag. -/
def Tag.toks : Tag → List Tok
  | print _ v _ => [.openPrint, .name v.name, .closePrint]
  | start _ _ v _ _ => [.openBlock, .name "if".toList, .name v.name, .closeBlock]
  | finish _ _ => [.openBlock, .name "endif".toList, .closeBlock]

/-- The tokens of some pieces. -/
def pieceToks (pieces : List Piece) : List Tok :=
  pieces.flatMap fun p => dataToks p.front ++ p.tag.toks

/-- A text that starts with a name starts with what names start with. -/
theorem forall_head?_name {word : Text} (hname : Text.isName word = true) (rest : Text) :
    ∀ c ∈ (word ++ rest).head?, Text.isNameStart c = true := by
  cases word with
  | nil => simp [Text.isName] at hname
  | cons d word => simpa using Text.isNameStart_of_isName hname

/-- No tag of a skeleton is a raw one. -/
theorem dropRawTag?_eq_none {blanks : Text} (hblank : blanks.Blank) {c : Char}
    (hc : Text.isBlank c = false) (hraw : c ≠ 'r') (rest : Text) :
    dropRawTag? (blanks ++ c :: rest) = none := by
  have hstrip : Text.stripStart (blanks ++ c :: rest) = c :: rest :=
    (hblank.takeWhile (by simpa using hc)).2
  unfold dropRawTag?
  rw [hstrip]
  simp [Text.dropStart?, hraw]

section

variable {mode : Mode} {word rest : Text} {toks : List Tok}

/-- What is behind blanks and a name does not start a delimiter with a sign. -/
theorem notMem_endStarts_of_name (p : Padding) (hname : Text.isName word = true) (rest : Text) :
    ∀ c ∈ (p.text ++ (word ++ rest)).head?, c ∉ endStarts := by
  refine forall_head?_append (fun c hc => notMem_endStarts_of_isBlank (p.blank c hc)) ?_
  intro c hc
  exact notMem_endStarts_of_isNameStart (forall_head?_name hname rest c hc)

/-- Blanks and a name inside a tag, and then what is behind them. -/
theorem ReadsAs.paddedName (hmode : mode ≠ .outside) (p : Padding) (hname : Text.isName word = true)
    (hword : Text.IsWord word)
    (hend : ∀ c ∈ rest.head?, Text.isWordChar c = false) (hrest : ReadsAs ends mode rest toks) :
    ReadsAs ends mode (p.text ++ (word ++ rest)) (.name word :: toks) := by
  refine ReadsAs.blanks hmode p.blank ?_ (ReadsAs.name hmode hname hword hend hrest)
  intro c hc
  exact Text.isBlank_of_isNameStart (forall_head?_name hname rest c hc)

/-- A word ends at blanks, or where a delimiter follows. -/
theorem isWordChar_head? (p : Padding) {delimiter : Text}
    (h : ∀ c ∈ (delimiter ++ rest).head?, Text.isWordChar c = false) :
    ∀ c ∈ (p.text ++ (delimiter ++ rest)).head?, Text.isWordChar c = false :=
  forall_head?_append (fun c hc => Text.isWordChar_of_isBlank (p.blank c hc)) h

/-- A tag with the text in front of it, and then what is behind them. -/
theorem ReadsAs.piece (p : Piece) (hfree : TagFree p.front)
    (hlast : p.front.getLast? ≠ some '\x7b') (hrest : ReadsAs ends .outside rest toks) :
    ReadsAs ends .outside (p.front ++ p.tag.text ++ rest)
      (dataToks p.front ++ p.tag.toks ++ toks) := by
  obtain ⟨front, tag⟩ := p
  have hblock : ∀ c ∈ ("$\x7d".toList ++ rest).head?, Text.isWordChar c = false := by
    simp [show Text.isWordChar '$' = false by decide +kernel]
  have hprint : ∀ c ∈ ("\x7d\x7d".toList ++ rest).head?, Text.isWordChar c = false := by
    simp [show Text.isWordChar '\x7d' = false by decide +kernel]
  -- every word of a tag ends at a blank or at the delimiter of the tag
  cases tag with
  | print before v after =>
    simp only [Tag.text, Tag.toks, List.append_assoc, List.cons_append, List.nil_append]
    refine ReadsAs.openPrint hfree hlast (notMem_endStarts_of_name before v.isName _) ?_
    refine ReadsAs.paddedName (by simp) before v.isName v.isWord (isWordChar_head? after hprint) ?_
    exact ReadsAs.blanks (by simp) after.blank (by simp; decide) (ReadsAs.closePrint hrest)
  | start before between v after apart =>
    simp only [Tag.text, Tag.toks, List.append_assoc, List.cons_append, List.nil_append]
    have hname : Text.isName "if".toList = true := by decide +kernel
    have hbetween : ∀ u : Text, ∀ c ∈ (between.text ++ u).head?, Text.isWordChar c = false := by
      intro u c hc
      obtain ⟨b, blanks, hblanks⟩ := List.exists_cons_of_ne_nil apart
      rw [hblanks] at hc
      obtain rfl : b = c := by simpa using hc
      exact Text.isWordChar_of_isBlank (between.blank b (hblanks ▸ List.mem_cons_self))
    refine ReadsAs.openBlock hfree hlast (notMem_endStarts_of_name before hname _) ?_ ?_
    · exact dropRawTag?_eq_none before.blank (by decide) (by decide) _
    · refine ReadsAs.paddedName (by simp) before hname (by decide +kernel) (hbetween _) ?_
      refine ReadsAs.paddedName (by simp) between v.isName v.isWord
        (isWordChar_head? after hblock) ?_
      exact ReadsAs.blanks (by simp) after.blank (by simp; decide) (ReadsAs.closeBlock hrest)
  | finish before after =>
    simp only [Tag.text, Tag.toks, List.append_assoc, List.cons_append, List.nil_append]
    have hname : Text.isName "endif".toList = true := by decide +kernel
    refine ReadsAs.openBlock hfree hlast (notMem_endStarts_of_name before hname _) ?_ ?_
    · exact dropRawTag?_eq_none before.blank (by decide) (by decide) _
    · refine ReadsAs.paddedName (by simp) before hname (by decide +kernel)
        (isWordChar_head? after hblock) ?_
      exact ReadsAs.blanks (by simp) after.blank (by simp; decide) (ReadsAs.closeBlock hrest)

end

/-- The tokens of a text, and how they end. -/
theorem ReadsAs.tokenize {t : Text} {toks : List Tok} (hreturn : '\r' ∉ t)
    (h : ReadsAs ends .outside t toks) :
    (tokenize t).tokens.map Token.tok = toks ∧ ends (tokenize t).flaw := by
  unfold Template.tokenize
  rw [Text.unifyBreaks_of_notMem hreturn]
  exact h _ _ _ (Nat.lt_succ_self _)

/-- The text of a skeleton is read as the tokens of its pieces, and its tail. -/
theorem readsAs_text {l : Skeleton} (hsound : l.Sound) :
    ReadsAs (· = none) .outside l.text (pieceToks l.pieces ++ dataToks l.tail) := by
  obtain ⟨pieces, tail⟩ := l
  obtain ⟨hfront, htail⟩ := hsound
  induction pieces with
  | nil => exact ReadsAs.tail htail
  | cons p more ih =>
    obtain ⟨hfree, hlast⟩ := hfront p List.mem_cons_self
    have hmore := ih (fun q hq => hfront q (List.mem_cons_of_mem p hq)) htail
    have hpiece := ReadsAs.piece p hfree hlast hmore
    simpa [Skeleton.text, pieceToks] using hpiece

/-- Reading a skeleton finds the tokens of its parts, and no flaw. -/
theorem tokenize_text {l : Skeleton} (hreturn : '\r' ∉ l.text) (hsound : l.Sound) :
    (tokenize l.text).tokens.map Token.tok = pieceToks l.pieces ++ dataToks l.tail ∧
      (tokenize l.text).flaw = none :=
  (readsAs_text hsound).tokenize hreturn

end ShaderCompose.Template
