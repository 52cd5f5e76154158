import ShaderCompose.Proofs.Expansion.Recomposition
import ShaderCompose.Proofs.Text.Breaks

/-!
# Templates without tags

Filling in a template rewrites the breaks of its text, and copies the text up to the first opening
delimiter.  Composed code has line feeds for breaks and nothing else, so a composition whose code
has no opening delimiter comes out the same with variables as without them
(`Composer.compose_tagFree`).  Whatever the code, variables change nothing but the code.
-/

set_option autoImplicit false

namespace ShaderCompose

namespace Template

/-! ## Text without opening delimiters -/

/-- The opening delimiters. -/
def openings : List Text := [['\x7b', '\x7b'], ['\x7b', '$'], ['\x7b', '#']]

/-- No opening delimiter stands anywhere in a text. -/
def TagFree (t : Text) : Prop := ∀ opening ∈ openings, ¬opening <:+: t

/-- A text without tags does not start with an opening delimiter. -/
theorem not_tagFree_append (opening rest : Text) (h : opening ∈ openings) :
    ¬TagFree (opening ++ rest) := fun hfree =>
  hfree opening h (List.prefix_append opening rest).isInfix

/-- The search for an opening delimiter finds none exactly if there is none. -/
theorem findOpening_eq_none_iff (t : Text) : findOpening t = none ↔ TagFree t := by
  fun_induction findOpening t with
  | case1 => simp [TagFree, openings]
  | case2 rest => simpa using not_tagFree_append ['\x7b', '$'] rest (by decide)
  | case3 rest => simpa using not_tagFree_append ['\x7b', '\x7b'] rest (by decide)
  | case4 rest => simpa using not_tagFree_append ['\x7b', '#'] rest (by decide)
  | case5 c rest hblock hprint hcomment ih =>
    have hstart : ∀ opening ∈ openings, ¬opening <+: c :: rest := by
      intro opening hmem hprefix
      simp only [openings, List.mem_cons, List.not_mem_nil, or_false] at hmem
      rcases hmem with rfl | rfl | rfl
      all_goals
        obtain ⟨hc, tail, hrest⟩ := List.cons_prefix_cons.mp hprefix
      · exact hprint tail hc.symm hrest.symm
      · exact hblock tail hc.symm hrest.symm
      · exact hcomment tail hc.symm hrest.symm
    rw [Option.map_eq_none_iff, ih]
    constructor
    · intro hfree opening hmem hwithin
      rcases List.infix_cons_iff.mp hwithin with hprefix | hwithin
      · exact hstart opening hmem hprefix
      · exact hfree opening hmem hwithin
    · intro hfree opening hmem hwithin
      exact hfree opening hmem (hwithin.trans (List.suffix_cons c rest).isInfix)

/-! ## Filling it in -/

/-- The statements of a text without tags. -/
def copyNodes (t : Text) : List Node := if t.isEmpty then [] else [.text t]

/-- A text without tags is one token for the text, or none if it is empty. -/
theorem tokenize_of_tagFree {t : Text} (hreturn : '\r' ∉ t) (hfree : TagFree t) :
    tokenize t = ⟨dataTokens t 1, none⟩ := by
  have hnone := (findOpening_eq_none_iff t).mpr hfree
  unfold tokenize
  rw [Text.unifyBreaks_of_notMem hreturn]
  simp [readTokens, stepOutside, hnone]

/-- The token of a text is parsed to the statement that copies the text. -/
theorem parseTokens_dataTokens (t : Text) (line : Nat) :
    parseTokens ⟨dataTokens t line, none⟩ = .ok (copyNodes t) := by
  cases t <;> rfl

/-- The plan of a text without tags copies it and looks up no names. -/
theorem plan_of_tagFree {t : Text} (hreturn : '\r' ∉ t) (hfree : TagFree t) :
    plan t = .ok ⟨[], if t.isEmpty then [] else [.text t]⟩ := by
  unfold plan
  rw [tokenize_of_tagFree hreturn hfree, parseTokens_dataTokens]
  cases t <;> rfl

/-- Where no variable has a name, none is found to have it. -/
theorem any_name_eq_false {vars : Bindings} {name : Text} (h : ∀ entry ∈ vars, entry.1 ≠ name) :
    vars.any (·.1 == name) = false := by
  rw [List.any_eq_false]
  intro entry hentry heq
  exact h entry hentry (beq_iff_eq.mp heq)

/-- A template is filled in by running it, unless a variable is called like an argument on the
way. -/
theorem fill_eq {t : Text} {vars : Bindings}
    (hvars : ∀ entry ∈ vars, entry.1 ∉ [selfName, "code".toList]) {p : Plan}
    (hplan : plan t = .ok p)
    {u : Text} (hfill : p.fillIn vars = .ok u) : fill t vars = .ok u := by
  have hnone (name : Text) (hname : name ∈ [selfName, "code".toList]) :
      vars.any (·.1 == name) = false :=
    any_name_eq_false fun entry hentry heq => hvars entry hentry (heq ▸ hname)
  unfold fill checkNames render
  rw [hnone _ (by simp), hnone _ (by simp), hplan]
  simp only [hfill]
  rfl

/-- A text without tags and carriage returns comes out as it is. -/
theorem fill_of_tagFree {t : Text} (hreturn : '\r' ∉ t) (hfree : TagFree t) {vars : Bindings}
    (hvars : ∀ entry ∈ vars, entry.1 ∉ [selfName, "code".toList]) : fill t vars = .ok t := by
  refine fill_eq hvars (plan_of_tagFree hreturn hfree) ?_
  cases t with
  | nil => rfl
  | cons c rest =>
    simp only [Plan.fillIn, List.isEmpty_cons, Bool.false_eq_true, if_false, runActions, runAction]
    exact congrArg Except.ok (List.append_nil _)

end Template

namespace Composer

/-! ## Compositions with variables -/

variable {r : Registry} {key : Value} {vars : Vars} {m m' : Memory} {c : Composed}

/-- Variables with other names than the reserved ones pass the check of the call. -/
theorem checkVars_eq_ok {function : String} {reserved : List String}
    (h : ∀ entry ∈ vars, entry.1 ∉ reserved.map String.toList) :
    checkVars function reserved vars = .ok () := by
  unfold checkVars
  rw [List.find?_eq_none.mpr]
  intro entry hentry hname
  obtain ⟨name, hmem, heq⟩ := List.any_eq_true.mp hname
  exact h entry hentry (List.mem_map.mpr ⟨name, hmem, beq_iff_eq.mp heq⟩)

/-- Variables are filled in when everything else is done. -/
theorem compose_eq (h : checkVars "ShaderComposer.compose" ["self", "effect_key"] vars = .ok ()) :
    compose r key vars m =
      ((compose r key [] m).1.bind (fillIn · vars), (compose r key [] m).2) := by
  have hnone : checkVars "ShaderComposer.compose" ["self", "effect_key"] [] = .ok () := rfl
  unfold compose
  rw [h, hnone]
  rcases expandArgument r key m with ⟨result, after⟩
  cases result <;> rfl

/-- A composition that succeeds was called with variables that pass the check of the call. -/
theorem checkVars_of_compose (h : compose r key vars m = (.ok c, m')) :
    checkVars "ShaderComposer.compose" ["self", "effect_key"] vars = .ok () := by
  cases hchecked : checkVars "ShaderComposer.compose" ["self", "effect_key"] vars with
  | ok _ => rfl
  | error e => simp [compose, hchecked] at h

/-- The names of the arguments on the way, which no variable may have. -/
def reservedNames : List Text := ["self".toList, "effect_key".toList, "code".toList]

/-- Variables that are called like no argument on the way pass the check of the call. -/
theorem checkVars_of_unreserved (h : ∀ entry ∈ vars, entry.1 ∉ reservedNames) :
    checkVars "ShaderComposer.compose" ["self", "effect_key"] vars = .ok () := by
  refine checkVars_eq_ok fun entry hentry hmem => h entry hentry ?_
  simp only [reservedNames, List.map_cons, List.map_nil, List.mem_cons, List.not_mem_nil,
    or_false] at hmem ⊢
  exact hmem.elim Or.inl fun hkey => Or.inr (Or.inl hkey)

/-- Filling in changes nothing but the code. -/
theorem eq_withCode_of_fillIn {plain : Composed} (h : fillIn plain vars = .ok c) :
    c = plain.withCode c.code := by
  unfold fillIn at h
  split at h
  · obtain rfl : plain = c := by simpa using h
    rfl
  · cases hfill : Template.fill plain.code vars with
    | error e => simp [hfill, Except.map] at h
    | ok code =>
      obtain rfl : plain.withCode code = c := by simpa [hfill, Except.map] using h
      rfl

/-- A composition that succeeded without variables comes out the same after any further loads. -/
theorem compose_again (h : compose r key [] m = (.ok c, m')) {n : Memory}
    (hloads : Cache.Loads r m'.cache n.cache) : (compose r key [] n).1 = .ok c := by
  obtain ⟨t, expanded, rfl, hexpand, rfl⟩ := expand_of_compose h
  obtain ⟨n', hagain, -⟩ := expand_again hexpand
    (n := n.report [⟨.debug, "Composing ".toList ++ t⟩]) hloads
  rw [compose_of_expand hagain]

/-- There is no carriage return in the code of a composition without variables. -/
theorem return_notMem_of_compose (h : compose r key [] m = (.ok c, m')) : '\r' ∉ c.code := by
  obtain ⟨lines, hcode, hlines⟩ := unbroken_of_compose h
  intro hmem
  rw [hcode] at hmem
  obtain ⟨line, hline, hreturn⟩ := List.mem_flatMap.mp hmem
  rcases List.mem_append.mp hreturn with hreturn | hreturn
  · exact (hlines line hline).2 hreturn
  · simp at hreturn

/-- Filling variables into code without tags gives the composition as it was. -/
theorem fillIn_of_tagFree (hreturn : '\r' ∉ c.code) (hfree : Template.TagFree c.code)
    (h : ∀ entry ∈ vars, entry.1 ∉ reservedNames) : fillIn c vars = .ok c := by
  have hfill : Template.fill c.code vars = .ok c.code := by
    refine Template.fill_of_tagFree hreturn hfree fun entry hentry hmem => h entry hentry ?_
    simp only [reservedNames, Template.selfName, List.mem_cons, List.not_mem_nil,
      or_false] at hmem ⊢
    exact hmem.elim Or.inl fun hcode => Or.inr (Or.inr hcode)
  unfold fillIn
  split
  · rfl
  · rw [hfill]
    rfl

/-- Code without opening delimiters is left alone by variables, unless one of them is called like an
argument on the way; it does not matter whether the variables come with the same composition or with
a later one.  Whenever a composition with variables succeeds, so does the one without them, with the
same source files, warnings and effect key. -/
theorem compose_tagFree (r : Registry) (key : Value) (vars : Vars) (m m' : Memory) :
    ((∀ entry ∈ vars, entry.1 ∉ reservedNames) →
      ∀ c, compose r key [] m = (.ok c, m') → Template.TagFree c.code →
        compose r key vars m = (.ok c, m') ∧
        ∀ later : Memory, Cache.Loads r m'.cache later.cache →
          (compose r key vars later).1 = .ok c) ∧
    ∀ c, compose r key vars m = (.ok c, m') →
      ∃ plain, compose r key [] m = (.ok plain, m') ∧ c.files = plain.files ∧
        c.warnings = plain.warnings ∧ c.effectKey = plain.effectKey ∧
        ∀ later : Memory, Cache.Loads r m'.cache later.cache →
          (compose r key [] later).1 = .ok plain := by
  constructor
  · intro hvars c hplain hfree
    have hchecked := checkVars_of_unreserved hvars
    have hfill := fillIn_of_tagFree (return_notMem_of_compose hplain) hfree hvars
    refine ⟨?_, fun later hloads => ?_⟩
    · rw [compose_eq hchecked, hplain]
      exact Prod.ext hfill rfl
    · rw [compose_eq hchecked, compose_again hplain hloads]
      exact hfill
  · intro c hcompose
    rw [compose_eq (checkVars_of_compose hcompose)] at hcompose
    rcases hplain : compose r key [] m with ⟨result, after⟩
    rw [hplain] at hcompose
    cases result with
    | error e => simp [Except.bind] at hcompose
    | ok plain =>
      obtain ⟨hfill, rfl⟩ := Prod.mk.inj hcompose
      have hcode := eq_withCode_of_fillIn hfill
      refine ⟨plain, rfl, ?_, ?_, ?_, fun later hloads => compose_again hplain hloads⟩
      all_goals
        rw [hcode]
        rfl

/-- A section with closing delimiters and a single brace in its code, and one with a tag. -/
def cloudScene : Registry :=
  ⟨[], "fx".toList, "glsl".toList,
    .table [("fx/cloud.glsl".toList,
      .text ("-- main\r\nfloat f() \x7b return 1.0; \x7d\r\n\x7d\x7d $\x7d #\x7d \x7b\r\n" ++
        "-- tag\nconst int N = \x7b\x7b n \x7d\x7d;\n").toList)], "/work".toList⟩

/-- The code without a tag is left alone, and that with a tag has the same source files. -/
theorem compose_tagFree_cloud :
    (∃ c m', compose cloudScene (.text "cloud.main".toList) [("n".toList, .int 3)]
        ⟨.empty, [], []⟩ = (.ok c, m') ∧
      c.code = ("#line 2 0\nfloat f() \x7b return 1.0; \x7d\n" ++
        "\x7d\x7d $\x7d #\x7d \x7b\n").toList ∧
      (compose cloudScene (.text "cloud.main".toList) [("n".toList, .int 3)] m').1 = .ok c) ∧
    ∃ c plain m', compose cloudScene (.text "cloud.tag".toList) [("n".toList, .int 3)]
        ⟨.empty, [], []⟩ = (.ok c, m') ∧
      compose cloudScene (.text "cloud.tag".toList) [] ⟨.empty, [], []⟩ = (.ok plain, m') ∧
      c.code = "#line 5 0\nconst int N = 3;\n".toList ∧ c.files = plain.files := by
  constructor
  · obtain ⟨c, m', hcompose, htest⟩ := exists_of_any
      (compose cloudScene (.text "cloud.main".toList) [] ⟨.empty, [], []⟩)
      (fun c => c.code == ("#line 2 0\nfloat f() \x7b return 1.0; \x7d\n" ++
        "\x7d\x7d $\x7d #\x7d \x7b\n").toList) (by decide +kernel)
    have hcode := beq_iff_eq.mp htest
    have hfree : Template.TagFree c.code := by
      rw [hcode, ← Template.findOpening_eq_none_iff]
      decide +kernel
    obtain ⟨hsame, hlater⟩ := (compose_tagFree cloudScene (.text "cloud.main".toList)
      [("n".toList, .int 3)] ⟨.empty, [], []⟩ m').1 (by decide) c hcompose hfree
    exact ⟨c, m', hsame, hcode, hlater m' .refl⟩
  · obtain ⟨c, m', hcompose, htest⟩ := exists_of_any
      (compose cloudScene (.text "cloud.tag".toList) [("n".toList, .int 3)] ⟨.empty, [], []⟩)
      (fun c => c.code == "#line 5 0\nconst int N = 3;\n".toList) (by decide +kernel)
    obtain ⟨plain, hplain, hfiles, -⟩ := (compose_tagFree cloudScene (.text "cloud.tag".toList)
      [("n".toList, .int 3)] ⟨.empty, [], []⟩ m').2 c hcompose
    exact ⟨c, plain, m', hcompose, hplain, beq_iff_eq.mp htest, hfiles⟩

end Composer

end ShaderCompose
