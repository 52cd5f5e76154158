import ShaderCompose.Proofs.Path.Resolution
import ShaderCompose.Proofs.Template.Filling
import ShaderCompose.Proofs.Text.NormalForms

/-!
# Lines stay in place

Filling in a template with names only leaves every line where it is, so that line markers keep
pointing at the right lines: a line becomes what its own skeleton becomes, and a line with nothing
on it but tags of choices becomes an empty one (`fill_keeps_lines`).  Two names that are spelled
differently but have the same normal form share one value, and the one they share is that of the
name that is met last; this is why such names have to stand for the same value.
-/

set_option autoImplicit false

namespace ShaderCompose

/-- The pieces between line feeds, each ended by one, are the text with one more. -/
theorem Text.joinLines_pieces (t : Text) :
    Text.joinLines (Text.pieces '\n' t) = t ++ ['\n'] := by
  induction t with
  | nil => rfl
  | cons c t ih =>
    obtain ⟨piece, more, hpieces⟩ := List.exists_cons_of_ne_nil (Text.pieces_ne_nil '\n' t)
    rw [Text.pieces]
    by_cases hc : c = '\n'
    · rw [if_pos hc, hc, List.cons_append, ← ih]
      rfl
    · rw [if_neg hc, hpieces, List.cons_append, ← ih, hpieces]
      rfl

namespace Template

open Skeleton

section

variable {lines : List Skeleton}

/-- The lines of a skeleton from lines, as they are written or filled in. -/
theorem pieces_ofLines {f : Skeleton → Text} (hf : ∀ l m, f (above l m) = f l ++ '\n' :: f m)
    (hne : lines ≠ []) (h : ∀ l ∈ lines, '\n' ∉ f l) :
    Text.pieces '\n' (f (ofLines lines)) = lines.map f := by
  fun_induction ofLines lines with
  | case1 => exact absurd rfl hne
  | case2 l => exact Text.pieces_of_notMem (h l List.mem_cons_self)
  | case3 l m more ih =>
    rw [hf, Text.pieces_append, Text.pieces_of_notMem (h l List.mem_cons_self),
      ih (by simp) fun k hk => h k (List.mem_cons_of_mem l hk)]
    rfl

end

/-- A line holds no line feed if it held none before, and what is printed on it holds none. -/
theorem lf_notMem_filled {l : Skeleton} {value : Text → Text} (htext : '\n' ∉ l.text)
    (hvalue : ∀ tag ∈ l.tags, ∀ n, tag.printed? = some n → '\n' ∉ value n) :
    '\n' ∉ l.filled value := by
  simp only [Skeleton.text, List.mem_append, List.mem_flatMap, not_or, not_exists, not_and]
    at htext
  obtain ⟨hpieces, htail⟩ := htext
  intro hmem
  rcases List.mem_append.mp hmem with hmem | hmem
  · obtain ⟨p, hp, hmem⟩ := List.mem_flatMap.mp hmem
    rcases List.mem_append.mp hmem with hfront | htag
    · exact (hpieces p hp).1 hfront
    · cases htag' : p.tag with
      | print before v after =>
        rw [htag'] at htag
        exact hvalue p.tag (List.mem_map_of_mem hp) v.name (by rw [htag']; rfl) htag
      | start _ _ _ _ _ => simp [htag', Tag.filled] at htag
      | finish _ _ => simp [htag', Tag.filled] at htag
  · exact htail hmem

/-- The pieces between line feeds have none in them. -/
theorem lf_notMem_text {code : Text} {lines : List Skeleton}
    (h : Text.pieces '\n' code = lines.map Skeleton.text) : ∀ l ∈ lines, '\n' ∉ l.text := by
  intro l hl
  have hmem : l.text ∈ Text.pieces '\n' code := h ▸ List.mem_map_of_mem hl
  exact (Path.notMem_of_mem_pieces hmem).1

/-- The code that lines make up is the skeleton that theirs make up, as it is written. -/
theorem text_ofLines {code : Text} {lines : List Skeleton}
    (h : Text.pieces '\n' code = lines.map Skeleton.text) : (ofLines lines).text = code := by
  have hne : lines ≠ [] := by
    rintro rfl
    exact Text.pieces_ne_nil '\n' code h
  have htext := pieces_ofLines text_above hne (lf_notMem_text h)
  have hended : (ofLines lines).text ++ ['\n'] = code ++ ['\n'] := by
    rw [← Text.joinLines_pieces, ← Text.joinLines_pieces, htext, h]
  exact List.append_cancel_right hended

/-- Every line of the code stays in place, with the texts of the values in the place of the names,
and nothing in the place of the tags of choices. -/
theorem fill_keeps_lines {code : Text} (hreturn : '\r' ∉ code) {lines : List Skeleton}
    (hlines : Text.pieces '\n' code = lines.map Skeleton.text) (hsound : ∀ l ∈ lines, l.Sound)
    (hnested : Nested (lines.flatMap Skeleton.tags)) {vars : Bindings} {value : Text → Text}
    (hvars : Supplies vars value (lines.flatMap Skeleton.tags))
    (hvalue : ∀ tag ∈ lines.flatMap Skeleton.tags, ∀ n, tag.printed? = some n →
      '\n' ∉ value n) :
    ∃ filled, fill code vars = .ok filled ∧
      Text.pieces '\n' filled = lines.map (Skeleton.filled value) := by
  have hcode := text_ofLines hlines
  have hfill : fill (ofLines lines).text vars = .ok ((ofLines lines).filled value) := by
    refine fill_text (hcode ▸ hreturn) (Sound.ofLines hsound) ?_ ?_
    · rw [tags_ofLines]
      exact hnested
    · rw [tags_ofLines]
      exact hvars
  refine ⟨(ofLines lines).filled value, hcode ▸ hfill, ?_⟩
  refine pieces_ofLines (fun l m => filled_above l m value) ?_ fun l hl => ?_
  · rintro rfl
    exact Text.pieces_ne_nil '\n' code hlines
  · exact lf_notMem_filled (lf_notMem_text hlines l hl) fun tag htag =>
      hvalue tag (List.mem_flatMap.mpr ⟨l, hl, htag⟩)

/-- Two lines that a choice goes across, with two tags on each of them, and an empty line. -/
def reefLines : List Skeleton :=
  let wet : Variable := { name := "wet".toList }
  let n : Variable := { name := "n".toList }
  [⟨[⟨[], .start space space wet space (by decide)⟩, ⟨"int n = ".toList, .print space n space⟩],
      ";".toList⟩,
    ⟨[⟨"// \x7d ".toList, .print ⟨[], by decide⟩ n space⟩, ⟨" ".toList, .finish space space⟩],
      "\x7b".toList⟩,
    ⟨[], []⟩]

/-- The lines stay where they are, although a choice starts on one of them and ends on another. -/
theorem fill_keeps_lines_reef :
    ∃ filled, fill ("\x7b$ if wet $\x7dint n = \x7b\x7b n \x7d\x7d;\n" ++
        "// \x7d \x7b\x7bn \x7d\x7d \x7b$ endif $\x7d\x7b\n").toList
        [("n".toList, .text "12".toList), ("wet".toList, .bool true)] = .ok filled ∧
      Text.pieces '\n' filled = ["int n = 12;".toList, "// \x7d 12 \x7b".toList, []] := by
  have hnested : Nested (reefLines.flatMap Skeleton.tags) :=
    Nested.choice (.print (.print .nil)) .nil
  have hvars : Supplies [("n".toList, .text "12".toList), ("wet".toList, .bool true)]
      (fun _ => "12".toList) (reefLines.flatMap Skeleton.tags) := by
    have htags : ∀ tag ∈ reefLines.flatMap Skeleton.tags,
        (tag.printed? = none ∨ tag.printed? = some "n".toList) ∧
          (tag.condition? = none ∨ tag.condition? = some "wet".toList) := by
      decide +kernel
    have hapart : ∀ m ∈ namesOf (reefLines.flatMap Skeleton.tags),
        ∀ n ∈ namesOf (reefLines.flatMap Skeleton.tags),
          Text.normalName m = Text.normalName n → m = n := by
      decide +kernel
    refine ⟨fun tag htag n hn => ?_, fun tag htag n hn => ?_,
      fun m hm n hn hsame => by rw [hapart m hm n hn hsame], by decide⟩
    · rcases (htags tag htag).1 with hnone | hsome
      · exact absurd (hnone.symm.trans hn) (by simp)
      · obtain rfl := Option.some.inj (hsome.symm.trans hn)
        exact ⟨_, rfl, rfl⟩
    · rcases (htags tag htag).2 with hnone | hsome
      · exact absurd (hnone.symm.trans hn) (by simp)
      · obtain rfl := Option.some.inj (hsome.symm.trans hn)
        exact ⟨_, rfl, rfl⟩
  exact fill_keeps_lines (by decide +kernel) (by decide +kernel) (by decide +kernel) hnested hvars
    (fun _ _ _ _ => by decide)

/-! ## Names with the same normal form -/

/-- Two variables printed side by side. -/
def sideBySide (m n : Variable) : Skeleton :=
  ⟨[⟨[], .print space m space⟩, ⟨[], .print space n space⟩], []⟩

/-- There is no carriage return in the name of a variable. -/
theorem Variable.return_notMem (v : Variable) : '\r' ∉ v.name := by
  intro hmem
  exact absurd (v.isWord '\r' hmem) (by decide +kernel)

/-- The frame has one place for each of two variables that are printed side by side, in the order in
which they are met. -/
theorem templateLocals_sideBySide {m n : Variable} (hne : m.name ≠ n.name)
    (hm : m.name ≠ selfName) (hn : n.name ≠ selfName) :
    templateLocals [.print (.name m.name), .print (.name n.name)] =
      [⟨m.name, .variable⟩, ⟨n.name, .variable⟩] := by
  simp [templateLocals, mentionsOfNodes, Node.mentions, Expr.mentions, Expr.names, usesFirst,
    Names.afterNodes, Names.afterNode, Names.useAll, Names.use, Names.define, Names.has,
    Names.empty, hne, hm, hn]

/-- A name that a variable has is not that of the template itself. -/
theorem ne_self_of_lookup {vars : Bindings} {n : Text} {v : Value} (hv : vars.lookup n = some v)
    (hvars : ∀ entry ∈ vars, entry.1 ∉ [selfName, "code".toList]) : n ≠ selfName := by
  rintro rfl
  obtain ⟨front, rest, rfl, -⟩ := List.lookup_eq_some_iff.mp hv
  exact hvars (selfName, v) (by simp) (by simp)

/-- The frame of two variables has one place for both if their names have the same normal form. -/
theorem valueOf_sharedPlace {m n k : Text} (hsame : Text.normalName m = Text.normalName n)
    {globals : Bindings} {x y : Value} (hm : globals.lookup m = some x)
    (hn : globals.lookup n = some y) (f : Frame) (hk : k ∈ [m, n]) :
    valueOf [f.enter globals [] [⟨m, .variable⟩, ⟨n, .variable⟩]] k = y := by
  have henter : f.enter globals [] [⟨m, .variable⟩, ⟨n, .variable⟩] =
      (Frame.set { f with names := [m, n] } m x).set n y := by
    simp [Frame.enter, Frame.assign, hm, hn]
  have hkey : Text.normalName k = Text.normalName n := by
    rcases List.mem_cons.mp hk with rfl | hk
    · exact hsame
    · rw [List.mem_singleton.mp hk]
  have hcontains : ((Frame.set { f with names := [m, n] } m x).set n y).names.contains k = true :=
    List.contains_iff_mem.mpr hk
  unfold valueOf Frames.get?
  rw [henter]
  simp only [List.find?_cons, hcontains, Frame.get?_set, hkey, if_true, Option.getD_some]

/-- Two names with the same normal form share one value: that of the second is printed for both. -/
theorem fill_sideBySide {m n : Variable} (hsame : Text.normalName m.name = Text.normalName n.name)
    (hne : m.name ≠ n.name) {vars : Bindings} {x y : Value} (hm : vars.lookup m.name = some x)
    (hn : vars.lookup n.name = some y) {t : Text} (hy : printed y = .ok t)
    (hvars : ∀ entry ∈ vars, entry.1 ∉ [selfName, "code".toList]) :
    fill (sideBySide m n).text vars = .ok (t ++ t) := by
  have hmakes : Makes (sideBySide m n).pieces
      [.print (.name m.name), .print (.name n.name)] := .print (.print .nil)
  have hlocals := templateLocals_sideBySide hne (ne_self_of_lookup hm hvars)
    (ne_self_of_lookup hn hvars)
  have hglobal {k : Text} {v : Value} (hk : vars.lookup k = some v) :
      (vars ++ standardNames).lookup k = some v := by
    rw [List.lookup_append, hk, Option.some_or]
  have hvalue (k : Text) (hk : k ∈ [m.name, n.name]) :
      printed (valueOf [templateFrame vars
        [.print (.name m.name), .print (.name n.name)]] k) = .ok t := by
    rw [templateFrame, hlocals, valueOf_sharedPlace hsame (hglobal hm) (hglobal hn) _ hk, hy]
  have hpieces : ∀ p ∈ (sideBySide m n).pieces, p.front = [] ∧ p.tag.condition? = none ∧
      ∀ k, p.tag.printed? = some k → k ∈ [m.name, n.name] := by
    intro p hp
    simp only [sideBySide, List.mem_cons, List.not_mem_nil, or_false] at hp
    rcases hp with rfl | rfl
    · exact ⟨rfl, rfl, fun k hk => by simp [← Option.some.inj hk]⟩
    · exact ⟨rfl, rfl, fun k hk => by simp [← Option.some.inj hk]⟩
  have hsound : (sideBySide m n).Sound := by
    refine ⟨fun p hp => ?_, show TagFree [] by decide⟩
    rw [(hpieces p hp).1]
    exact ⟨by decide, by decide⟩
  have hreturn : '\r' ∉ (sideBySide m n).text := by
    simp [sideBySide, Skeleton.text, Tag.text, space, m.return_notMem, n.return_notMem]
  have hfills : Fills [templateFrame vars [.print (.name m.name), .print (.name n.name)]]
      [.print (.name m.name), .print (.name n.name)] (t ++ t) := by
    have hprint := hmakes.fills (fun p hp k hk => hvalue k ((hpieces p hp).2.2 k hk))
      (fun p hp k hk => by rw [(hpieces p hp).2.1] at hk; contradiction) []
    simpa [sideBySide, Skeleton.filled, Tag.filled, copyNodes] using hprint
  exact fill_of_fills hreturn hsound hmakes hvars hfills

/-- The ligature of the letters i and j, and the two letters. -/
def ligatures : Skeleton :=
  sideBySide { name := ['\u0133'] } { name := ['i', 'j'] }

/-- Their values are not kept apart, so that the line does not come out as it should. -/
theorem ligatures_share_value :
    Text.pieces '\n' ligatures.text = [ligatures].map Skeleton.text ∧ ligatures.Sound ∧
      Nested ligatures.tags ∧
      (∀ tag ∈ ligatures.tags, tag.condition? = none ∧
        ∀ n, tag.printed? = some n → ∃ v,
          [(['i', 'j'], .text ['2']), (['\u0133'], Value.text ['1'])].lookup n = some v ∧
            printed v = .ok (if n = ['i', 'j'] then ['2'] else ['1'])) ∧
      fill ligatures.text [(['i', 'j'], .text ['2']), (['\u0133'], .text ['1'])] =
        .ok "22".toList ∧
      ligatures.filled (fun n => if n = ['i', 'j'] then ['2'] else ['1']) = "12".toList := by
  refine ⟨by decide +kernel, by decide +kernel, .print (.print .nil), fun tag htag => ?_, ?_,
    by decide +kernel⟩
  · have htags : ∀ tag ∈ ligatures.tags, tag.condition? = none ∧
        (tag.printed? = some ['\u0133'] ∨ tag.printed? = some ['i', 'j']) := by
      decide +kernel
    refine ⟨(htags tag htag).1, fun n hn => ?_⟩
    rcases (htags tag htag).2 with h | h
    · obtain rfl := Option.some.inj (h.symm.trans hn)
      exact ⟨_, rfl, rfl⟩
    · obtain rfl := Option.some.inj (h.symm.trans hn)
      exact ⟨_, rfl, rfl⟩
  · have hsame : Text.normalName ['\u0133'] = Text.normalName ['i', 'j'] := by
      rw [Text.normalName_ligature, Text.normalName_of_ascii (by decide)]
    have hfill : fill ligatures.text [(['i', 'j'], .text ['2']), (['\u0133'], .text ['1'])] =
        .ok (['2'] ++ ['2']) :=
      fill_sideBySide (m := { name := ['\u0133'] }) (n := { name := ['i', 'j'] }) hsame
        (by decide) rfl rfl rfl (by decide)
    exact hfill

end Template

end ShaderCompose
