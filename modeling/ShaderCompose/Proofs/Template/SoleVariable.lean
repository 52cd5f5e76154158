import ShaderCompose.Proofs.Template.Filling
import ShaderCompose.Proofs.Template.LateMarks

/-!
# A line that prints one variable

Variables are passed on as arguments by name, so their names meet those of the parameters of all
functions on the way.  A section with one line, which prints a variable, shows where: it is composed
to the text of the variable behind a marker, unless the variable is called like one of these
parameters (`Composer.compose_soleVariable`).  Such a clash is no error of effects or templates, but
of the call.
-/

set_option autoImplicit false

namespace ShaderCompose

namespace Template

/-! ## Filling it in -/

/-- A line that prints the variable of a name and nothing else. -/
def soleLine (v : Text) : Text := "\x7b\x7b".toList ++ (space.text ++ (v ++ " \x7d\x7d".toList))

/-- Text without the character that opening delimiters start with. -/
theorem tagFree_of_notMem {t : Text} (h : '\x7b' ∉ t) : TagFree t := by
  have hstart : ∀ d ∈ openings, '\x7b' ∈ d := by decide
  exact fun opening hmem hwithin => h (hwithin.subset (hstart opening hmem))

/-- A character that goes on no name is in a line that prints a variable only if it is one of those
around the name. -/
theorem notMem_soleLine {v : Text} (hname : Text.isName v = true) {c : Char}
    (hc : Text.isNameChar c = false) (hother : c ∉ soleLine []) : c ∉ soleLine v := by
  have hv : c ∉ v := fun hmem =>
    Bool.false_ne_true (hc.symm.trans (Text.isNameChar_of_isName hname hmem))
  simp_all [soleLine]

section

variable {front tail v : Text}

/-- There is no carriage return in a line that prints a variable and the text around it, if there is
none in that text. -/
theorem return_notMem_around (hreturn : '\r' ∉ front ++ tail) (hname : Text.isName v = true) :
    '\r' ∉ front ++ (soleLine v ++ tail) := by
  have hline : '\r' ∉ soleLine v := notMem_soleLine hname (by decide +kernel) (by decide)
  simp_all

/-- The sole variable supplies the tag that prints it, unless it is called like a parameter. -/
theorem supplies_sole (v : Variable) (hparameter : v.name ∉ [selfName, "code".toList]) (x : Text) :
    Supplies [(v.name, .text x)] (fun _ => x) [.print space v space] where
  prints tag htag n hn := by
    obtain rfl := List.mem_singleton.mp htag
    obtain rfl : v.name = n := Option.some.inj hn
    exact ⟨.text x, List.lookup_cons_self, rfl⟩
  holds tag htag n hn := by
    obtain rfl := List.mem_singleton.mp htag
    contradiction
  alike m hm n hn _ := by
    rw [List.mem_singleton.mp hm, List.mem_singleton.mp hn]
  unreserved entry hentry := by
    obtain rfl := List.mem_singleton.mp hentry
    exact hparameter

/-- A variable between texts gives way to its value. -/
theorem fill_around (hreturn : '\r' ∉ front ++ tail) (hfront : '\x7b' ∉ front)
    (htail : '\x7b' ∉ tail) (v : Variable) (hparameter : v.name ∉ [selfName, "code".toList])
    (x : Text) :
    fill (front ++ (soleLine v.name ++ tail)) [(v.name, .text x)] =
      .ok (front ++ (x ++ tail)) := by
  have hsound : (⟨[⟨front, .print space v space⟩], tail⟩ : Skeleton).Sound := by
    refine ⟨fun p hp => ?_, tagFree_of_notMem htail⟩
    obtain rfl := List.mem_singleton.mp hp
    exact ⟨tagFree_of_notMem hfront, fun hlast => hfront (List.mem_of_getLast? hlast)⟩
  have htext : (⟨[⟨front, .print space v space⟩], tail⟩ : Skeleton).text =
      front ++ (soleLine v.name ++ tail) := by
    simp [Skeleton.text, Tag.text, soleLine, space]
  rw [← htext, fill_text (htext ▸ return_notMem_around hreturn v.isName) hsound (.print .nil)
    (supplies_sole v hparameter x)]
  simp [Skeleton.filled, Tag.filled]

/-- A variable whose name is no word cannot be filled in. -/
theorem fill_around_lateMark (hreturn : '\r' ∉ front ++ tail) (hfront : '\x7b' ∉ front)
    (hname : Text.isName v = true) (hlate : ¬Text.IsWord v) (x : Text) :
    ∃ message, fill (front ++ (soleLine v ++ tail)) [(v, .text x)] =
      .error (.effect (.template message)) := by
  obtain ⟨w, hreads⟩ := readsAs_lateMark (" \x7d\x7d".toList ++ tail)
    (tagFree_of_notMem hfront) (fun hlast => hfront (List.mem_of_getLast? hlast)) hname hlate
  have haround : ReadsAs Ungrammatical .outside (front ++ (soleLine v ++ tail))
      (dataToks front ++ [.openPrint, .name w]) := by
    simpa only [soleLine, List.append_assoc] using hreads
  refine fill_of_ungrammatical (return_notMem_around hreturn hname) haround fun entry hentry => ?_
  obtain rfl := List.mem_singleton.mp hentry
  rintro rfl
  exact hlate (by decide +kernel)

/-- A variable called like the text that is filled in never gets to the template. -/
theorem fill_code (t : Text) (x : Value) :
    fill t [("code".toList, x)] =
      .error (.misuse (.call (.repeated "apply_templating".toList "code".toList))) := rfl

/-- A variable called like the template itself is refused when the template has been read. -/
theorem fill_self (x : Text) :
    fill (soleLine selfName) [(selfName, .text x)] =
      .error (.misuse (.call (.repeated "Template.render".toList selfName))) := by
  have hread : (plan (soleLine selfName)).toOption.isSome = true := by decide +kernel
  unfold fill checkNames render
  cases hplan : plan (soleLine selfName) with
  | error e => simp [hplan, Except.toOption] at hread
  | ok p => rfl

end

end Template

/-! ## Composing it -/

/-- A line that prints a variable is copied as it is wherever it stands. -/
theorem inert_soleLine {v : Text} (hname : Text.isName v = true) :
    Inert (Template.soleLine v) where
  unbroken := ⟨Template.notMem_soleLine hname (by decide +kernel) (by decide),
    Template.notMem_soleLine hname (by decide +kernel) (by decide)⟩
  plain := rfl
  own := rfl

/-- A character that is no digit is in a line marker only if it belongs to the words of the
marker. -/
theorem notMem_lineMarker (line file : Nat) {c : Char} (hdigit : c.isDigit = false)
    (hother : c ∉ lineMarker [] []) : c ∉ lineMarker (Text.ofNat line) (Text.ofNat file) := by
  have hnumber (n : Nat) : c ∉ Text.ofNat n := by
    intro hmem
    rw [Text.isDigit_of_mem_ofNat hmem] at hdigit
    contradiction
  unfold lineMarker at hother ⊢
  generalize "#line ".toList = start at hother ⊢
  simp only [List.append_nil, List.nil_append, List.mem_append, List.mem_cons,
    List.not_mem_nil, or_false, not_or] at hother ⊢
  obtain ⟨hstart, hblank, hend⟩ := hother
  exact ⟨⟨hstart, hnumber line⟩, hblank, hnumber file, hend⟩

namespace Composer

variable {r : Registry} {t : Text} {m m' : Memory} {target : Target} {number : Nat} {v : Text}

/-- Without variables the line is composed as it is. -/
theorem compose_soleLine
    (hlocate : locate r t (m.report [⟨.debug, "Composing ".toList ++ t⟩]) = (.ok target, m'))
    (hlines : target.found.lines = [(number, Template.soleLine v)])
    (hname : Text.isName v = true) :
    compose r (.text t) [] m = (.ok ⟨t, lineMarker (Text.ofNat number) (Text.ofNat 0) ++
      (Template.soleLine v ++ ['\n']), [target.file], []⟩, m') := by
  have hfound : target.found.lines = Text.numberLines number [Template.soleLine v] := hlines
  have hinert : ∀ line ∈ [Template.soleLine v], Inert line := by
    simpa using inert_soleLine hname
  have hversion : isVersionLine (Template.soleLine v) = false := rfl
  rw [compose_of_expand (expand_of_locate hlocate hfound hinert)]
  simp [markedLines, hversion, renderCode, CodeLine.render]

/-- The parameters of the composer itself. -/
def ownParameters : List Text := ["self".toList, "effect_key".toList]

/-- A variable with the name of a parameter is refused by the composer before it does anything. -/
theorem compose_ownParameter (hv : v ∈ ownParameters) (key x : Value) :
    compose r key [(v, x)] m =
      (.error (.misuse (.call (.repeated "ShaderComposer.compose".toList v))), m) := by
  rcases List.mem_cons.mp hv with rfl | hv
  · rfl
  · obtain rfl := List.mem_singleton.mp hv
    rfl

/-- With any other variable, what is composed without it is filled in. -/
theorem compose_soleLine_filled
    (hlocate : locate r t (m.report [⟨.debug, "Composing ".toList ++ t⟩]) = (.ok target, m'))
    (hlines : target.found.lines = [(number, Template.soleLine v)])
    (hname : Text.isName v = true) (hother : v ∉ ownParameters) (x : Text) :
    compose r (.text t) [(v, .text x)] m =
      ((Template.fill (lineMarker (Text.ofNat number) (Text.ofNat 0) ++
        (Template.soleLine v ++ ['\n'])) [(v, .text x)]).map fun code =>
          ⟨t, code, [target.file], []⟩, m') := by
  have hchecked : checkVars "ShaderComposer.compose" ["self", "effect_key"] [(v, .text x)] =
      .ok () := by
    refine checkVars_eq_ok fun entry hentry => ?_
    obtain rfl := List.mem_singleton.mp hentry
    exact hother
  rw [compose_eq hchecked, compose_soleLine hlocate hlines hname]
  rfl

/-- A section with one line, which prints a variable, is composed to the text of this variable
behind a marker, and filling in the line by itself gives the text, whatever the text is, if the name
of the variable is a word and that of no parameter on the way.  A name that is no word, because it
has a late mark in it, is an error of the template.  A name of a parameter is an error of the call
that passes the variable on. -/
theorem compose_soleVariable
    (hlocate : locate r t (m.report [⟨.debug, "Composing ".toList ++ t⟩]) = (.ok target, m'))
    (hlines : target.found.lines = [(number, Template.soleLine v)])
    (hname : Text.isName v = true) (hfree : v ∉ Template.keywords) (x : Text) :
    (Text.IsWord v →
      (v ∉ reservedNames → compose r (.text t) [(v, .text x)] m =
        (.ok ⟨t, lineMarker (Text.ofNat number) (Text.ofNat 0) ++ (x ++ ['\n']), [target.file], []⟩,
          m')) ∧
      (v ∉ ["self".toList, "code".toList] →
        Template.fill (Template.soleLine v) [(v, .text x)] = .ok x)) ∧
    (¬Text.IsWord v →
      (∃ message, compose r (.text t) [(v, .text x)] m =
        (.error (.effect (.template message)), m')) ∧
      ∃ message, Template.fill (Template.soleLine v) [(v, .text x)] =
        .error (.effect (.template message))) ∧
    (v ∈ ownParameters → compose r (.text t) [(v, .text x)] m =
      (.error (.misuse (.call (.repeated "ShaderComposer.compose".toList v))), m)) ∧
    (v = "self".toList → Template.fill (Template.soleLine v) [(v, .text x)] =
      .error (.misuse (.call (.repeated "Template.render".toList v)))) ∧
    (v = "code".toList →
      compose r (.text t) [(v, .text x)] m =
        (.error (.misuse (.call (.repeated "apply_templating".toList v))), m') ∧
      Template.fill (Template.soleLine v) [(v, .text x)] =
        .error (.misuse (.call (.repeated "apply_templating".toList v)))) := by
  have hfilled := compose_soleLine_filled hlocate hlines hname
  have hreturn : '\r' ∉ lineMarker (Text.ofNat number) (Text.ofNat 0) ++ ['\n'] := by
    rw [List.mem_append, not_or]
    exact ⟨notMem_lineMarker number 0 (by decide) (by decide), by decide⟩
  have hbrace : '\x7b' ∉ lineMarker (Text.ofNat number) (Text.ofNat 0) :=
    notMem_lineMarker number 0 (by decide) (by decide)
  -- by itself the line has nothing around it
  have hnoReturn : '\r' ∉ ([] ++ [] : Text) := by decide
  have hnoBrace : '\x7b' ∉ ([] : Text) := by decide
  refine ⟨fun hword => ⟨fun hv => ?_, fun hv => ?_⟩, fun hlate => ⟨?_, ?_⟩,
    fun hv => compose_ownParameter hv _ _, ?_, fun hv => ⟨?_, ?_⟩⟩
  · have hown : ∀ w ∈ ownParameters, w ∈ reservedNames := by decide
    have hlater : ∀ w ∈ [Template.selfName, "code".toList], w ∈ reservedNames := by decide
    rw [hfilled (fun hmem => hv (hown v hmem)), Template.fill_around hreturn hbrace (by decide)
      ⟨v, hname, hword, hfree⟩ fun hmem => hv (hlater v hmem)]
    rfl
  · have hfill := Template.fill_around hnoReturn hnoBrace hnoBrace ⟨v, hname, hword, hfree⟩ hv x
    rwa [List.nil_append, List.append_nil, List.nil_append, List.append_nil] at hfill
  · have hother : v ∉ ownParameters := by
      intro hmem
      have hwords : ∀ w ∈ ownParameters, Text.IsWord w := by decide +kernel
      exact hlate (hwords v hmem)
    -- the names of the parameters are words, so the call is made and the template is read
    obtain ⟨message, hfill⟩ := Template.fill_around_lateMark hreturn hbrace hname hlate x
    rw [hfilled hother, hfill]
    exact ⟨message, rfl⟩
  · have hfill := Template.fill_around_lateMark hnoReturn hnoBrace hname hlate x
    rwa [List.nil_append, List.append_nil] at hfill
  · rintro rfl
    exact Template.fill_self x
  · have hother : "code".toList ∉ ownParameters := by decide
    rw [hfilled (hv ▸ hother), hv, Template.fill_code]
    rfl
  · rw [hv]
    exact Template.fill_code _ _

/-- Sections with one line, which prints a variable. -/
def shoalScene : Registry :=
  ⟨[], "fx".toList, "glsl".toList,
    .table [("fx/shoal.glsl".toList,
      .text ("-- size\n\x7b\x7b depth \x7d\x7d\n-- text\n\x7b\x7b code \x7d\x7d\n").toList)],
    "/work".toList⟩

/-- A value is not read as part of the template. -/
theorem compose_soleVariable_shoal :
    ∃ c m', compose shoalScene (.text "shoal.size".toList)
        [("depth".toList, .text "12 // \x7b\x7b depth \x7d\x7d".toList)] ⟨.empty, [], []⟩ =
          (.ok c, m') ∧
      c.code = "#line 2 0\n12 // \x7b\x7b depth \x7d\x7d\n".toList := by
  obtain ⟨target, m', hlocate, hlines⟩ := exists_of_any (locate shoalScene "shoal.size".toList
    ((Memory.mk .empty [] []).report
      [⟨.debug, "Composing ".toList ++ "shoal.size".toList⟩]))
    (fun target => target.found.lines == [(2, Template.soleLine "depth".toList)])
    (by decide +kernel)
  have hresult := (compose_soleVariable hlocate (beq_iff_eq.mp hlines) (by decide +kernel)
    (by decide) "12 // \x7b\x7b depth \x7d\x7d".toList).1 (by decide +kernel)
  exact ⟨_, m', hresult.1 (by decide), rfl⟩

/-- A variable that is called `code` cannot be used. -/
theorem not_forall_soleVariable :
    ¬∀ (r : Registry) (t : Text) (m m' : Memory) (target : Target) (number : Nat) (v : Text),
      locate r t (m.report [⟨.debug, "Composing ".toList ++ t⟩]) = (.ok target, m') →
        target.found.lines = [(number, Template.soleLine v)] → Text.isName v = true →
        v ∉ Template.keywords → ∀ x, Template.TagFree x →
          ∃ c, (compose r (.text t) [(v, .text x)] m).1 = .ok c ∧
            c.code = lineMarker (Text.ofNat number) (Text.ofNat 0) ++ (x ++ ['\n']) := by
  intro hall
  obtain ⟨target, m', hlocate, hlines⟩ := exists_of_any (locate shoalScene "shoal.text".toList
    ((Memory.mk .empty [] []).report
      [⟨.debug, "Composing ".toList ++ "shoal.text".toList⟩]))
    (fun target => target.found.lines == [(4, Template.soleLine "code".toList)])
    (by decide +kernel)
  obtain ⟨c, hcompose, -⟩ := hall _ _ _ m' target 4 "code".toList hlocate
    (beq_iff_eq.mp hlines) (by decide +kernel) (by decide) "x".toList (by decide)
  have hfails : (compose shoalScene (.text "shoal.text".toList)
      [("code".toList, .text "x".toList)] ⟨.empty, [], []⟩).1.toOption.isSome = false := by
    decide +kernel
  rw [hcompose] at hfails
  exact absurd hfails (by simp [Except.toOption])

end Composer

end ShaderCompose
