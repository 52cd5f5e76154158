import Mathlib.Data.Set.Function
import ShaderCompose.Proofs.Expansion.Flattening

/-!
# File indices

The state of an expansion numbers the effects of which a section was begun.  Before and after every
request, whether it succeeds or fails, the recorded indices are one for each of these effects, from
zero on and without gaps, and the source file with an index has the identity that the index is
recorded for.  So the source files of an expansion are listed by their first begun section, and a
marker shows the index of the effect that the line behind it belongs to.
-/

set_option autoImplicit false

namespace ShaderCompose

/-! ## Numbered states -/

/-- The file indices are in order, and so are the sections that are being expanded. -/
structure Numbered (chain : Chain) (s : Expansion) : Prop where
  /-- Indices are recorded for the effects of which a section was begun, and for no others. -/
  recorded (identity : Text) :
    (s.indices.lookup identity).isSome ↔ ∃ key, (identity, key) ∈ s.expanded
  /-- Each number below the number of source files is the index of one of these effects. -/
  bijOn : Set.BijOn (fun identity => s.indices.lookup identity)
    {identity | ∃ key, (identity, key) ∈ s.expanded} {index | ∃ i < s.files.length, index = some i}
  /-- The source file with an index has the identity that the index is recorded for. -/
  index_file {i : Nat} {file : SourceFile} :
    s.files[i]? = some file → s.indices.lookup file.identity = some i
  distinct : (chain.map Prod.fst).Nodup
  current {id : SectionId} : id ∈ chain.map Prod.fst → id ∈ s.expanded

/-- How a state comes to be numbered: the source files are listed by their first begun section, and
their identities are looked up by place. -/
structure Indexed (s : Expansion) : Prop where
  parsed : s.memory.cache.Parsed
  listed : s.files.map SourceFile.identity = (s.expanded.map Prod.fst).eraseDups
  index_file {i : Nat} {file : SourceFile} :
    s.files[i]? = some file → s.indices.lookup file.identity = some i
  file_index {identity : Text} {i : Nat} :
    s.indices.lookup identity = some i → ∃ file, s.files[i]? = some file ∧ file.identity = identity

namespace Indexed

variable {s : Expansion}

/-- At the start there is no file index. -/
theorem start {m : Memory} (h : m.cache.Parsed) : Indexed (.start m) where
  parsed := h
  listed := rfl
  index_file hfile := by simp [Expansion.start] at hfile
  file_index hlookup := by simp [Expansion.start] at hlookup

/-- The identities of the source files are those of the effects with a begun section. -/
theorem mem_identities_iff (h : Indexed s) {identity : Text} :
    identity ∈ s.files.map SourceFile.identity ↔ ∃ key, (identity, key) ∈ s.expanded := by
  rw [h.listed, List.mem_eraseDups, List.mem_map]
  constructor
  · rintro ⟨⟨_, key⟩, hid, rfl⟩
    exact ⟨key, hid⟩
  · rintro ⟨key, hid⟩
    exact ⟨(identity, key), hid, rfl⟩

/-- An identity has a file index exactly if one of the source files has it. -/
theorem lookup_isSome_iff (h : Indexed s) {identity : Text} :
    (∃ i, s.indices.lookup identity = some i) ↔ identity ∈ s.files.map SourceFile.identity := by
  constructor
  · rintro ⟨i, hi⟩
    obtain ⟨file, hfile, rfl⟩ := h.file_index hi
    exact List.mem_map_of_mem (List.mem_of_getElem? hfile)
  · intro hmem
    obtain ⟨file, hfile, rfl⟩ := List.mem_map.mp hmem
    obtain ⟨i, hi⟩ := List.mem_iff_getElem?.mp hfile
    exact ⟨i, h.index_file hi⟩

/-- The sections that are being expanded have file indices. -/
theorem numbered (h : Indexed s) {chain : Chain} (hstack : Stacked chain s) :
    Numbered chain s where
  recorded identity := by
    rw [Option.isSome_iff_exists, h.lookup_isSome_iff, h.mem_identities_iff]
  bijOn := by
    refine ⟨?_, ?_, ?_⟩
    · intro identity hidentity
      have hmem := h.mem_identities_iff.mpr hidentity
      obtain ⟨i, hi⟩ := h.lookup_isSome_iff.mpr hmem
      obtain ⟨file, hfile, -⟩ := h.file_index hi
      exact ⟨i, (List.getElem?_eq_some_iff.mp hfile).1, hi⟩
    · intro identity hidentity other _ hsame
      have hmem := h.mem_identities_iff.mpr hidentity
      obtain ⟨i, hi⟩ := h.lookup_isSome_iff.mpr hmem
      have hother : s.indices.lookup other = some i := hsame.symm.trans hi
      obtain ⟨file, hfile, rfl⟩ := h.file_index hi
      obtain ⟨file', hfile', rfl⟩ := h.file_index hother
      rw [Option.some.inj (hfile.symm.trans hfile')]
    · rintro index ⟨i, hi, rfl⟩
      have hfile : s.files[i]? = some s.files[i] := List.getElem?_eq_getElem hi
      have hlookup := h.index_file hfile
      have hmem := h.lookup_isSome_iff.mp ⟨i, hlookup⟩
      exact ⟨_, h.mem_identities_iff.mp hmem, hlookup⟩
  index_file := h.index_file
  distinct := hstack.distinct
  current := hstack.current

/-- No two source files have the same identity. -/
theorem nodup (h : Indexed s) : (s.files.map SourceFile.identity).Nodup := by
  rw [List.nodup_iff_getElem?_ne_getElem?]
  intro i j hij hj heq
  rw [List.length_map] at hj
  have hi : i < s.files.length := by omega
  rw [List.getElem?_map, List.getElem?_map, List.getElem?_eq_getElem hi,
    List.getElem?_eq_getElem hj] at heq
  have hlookup := h.index_file (List.getElem?_eq_getElem hi)
  have hlookup' := h.index_file (List.getElem?_eq_getElem hj)
  rw [Option.map_some, Option.map_some] at heq
  rw [Option.some.inj heq, hlookup'] at hlookup
  have hsame := Option.some.inj hlookup
  omega

/-! ## Steps -/

/-- Another memory with a parsed cache changes nothing in the order of the file indices. -/
theorem withMemory (h : Indexed s) {m : Memory} (hm : m.cache.Parsed) :
    Indexed (s.withMemory m) :=
  ⟨hm, h.listed, h.index_file, h.file_index⟩

/-- A section is begun: its effect has an index already, or gets the next one. -/
theorem begin (h : Indexed s) {target : Target}
    (hfile : target.effect.identity = target.file.identity)
    (hfound : target.found.id.1 = target.file.identity) : Indexed (s.begin target).2 := by
  have hfst : (s.expanded ++ [target.found.id]).map Prod.fst =
      s.expanded.map Prod.fst ++ [target.effect.identity] := by
    rw [List.map_append, List.map_singleton, hfound, hfile]
  cases hlookup : s.indices.lookup target.effect.identity with
  | some index =>
    rw [Expansion.begin_of_lookup hlookup]
    have hmem : target.effect.identity ∈ s.expanded.map Prod.fst := by
      have hlisted := h.lookup_isSome_iff.mp ⟨index, hlookup⟩
      rwa [h.listed, List.mem_eraseDups] at hlisted
    refine ⟨h.parsed, ?_, h.index_file, h.file_index⟩
    rw [hfst, eraseDups_snoc_of_mem hmem]
    exact h.listed
  | none =>
    rw [Expansion.begin_of_lookup_none hlookup]
    have hnew : target.effect.identity ∉ s.expanded.map Prod.fst := by
      intro hmem
      have hlisted : target.effect.identity ∈ s.files.map SourceFile.identity := by
        rwa [h.listed, List.mem_eraseDups]
      obtain ⟨i, hi⟩ := h.lookup_isSome_iff.mpr hlisted
      simp [hlookup] at hi
    have hbegun := s.lookup_begin target
    rw [Expansion.begin_of_lookup_none hlookup] at hbegun
    refine ⟨h.parsed, ?_, ?_, ?_⟩
    · rw [hfst, eraseDups_snoc_of_notMem hnew, ← h.listed, hfile]
      simp
    · intro i file hi
      rw [hbegun]
      by_cases hlt : i < s.files.length
      · -- an effect that has an index already is not the new one
        rw [List.getElem?_append_left hlt] at hi
        have hold := h.index_file hi
        rw [if_neg (by rintro hsame; simp [hsame, hlookup] at hold)]
        exact hold
      · have hlast : i = s.files.length := by
          have hbound := (List.getElem?_eq_some_iff.mp hi).1
          rw [List.length_append, List.length_singleton] at hbound
          omega
        subst hlast
        obtain rfl : target.file = file := by simpa using hi
        rw [if_pos hfile.symm]
    · intro identity i hi
      rw [hbegun] at hi
      by_cases hsame : identity = target.effect.identity
      · rw [if_pos hsame] at hi
        obtain rfl : s.files.length = i := Option.some.inj hi
        exact ⟨target.file, by simp, by rw [hsame, hfile]⟩
      · rw [if_neg hsame] at hi
        obtain ⟨file, hfile, hidentity⟩ := h.file_index hi
        have hbound := (List.getElem?_eq_some_iff.mp hfile).1
        exact ⟨file, by rwa [List.getElem?_append_left hbound], hidentity⟩

/-- The order of the file indices is kept by every step of an expansion. -/
theorem invariant (r : Registry) : Invariant r fun _ s => Indexed s where
  looked hlocate h := h.withMemory (h.parsed.locate hlocate)
  warned target key h := ⟨h.parsed, h.listed, h.index_file, h.file_index⟩
  begun {chain key s target m} hlocate hchain hnew h := by
    obtain ⟨hfile, hfound⟩ := h.parsed.identity hlocate
    exact (h.withMemory (h.parsed.locate hlocate)).begin hfile hfound
  left h := h

end Indexed

/-! ## Along a run -/

section

variable {r : Registry} {job : Job} {s s' : Expansion} {result : Except Failure (List CodeLine)}

/-- An effect keeps its file index. -/
theorem Runs.lookup_grow (h : Runs r job s result s') {identity : Text} {index : Nat}
    (hlookup : s.indices.lookup identity = some index) :
    s'.indices.lookup identity = some index := by
  induction h with
  | unlocated | cyclic | repeated => exact hlookup
  | @unfolded chain key s s' target m result _ _ _ _ ih =>
    apply ih
    rw [Expansion.lookup_begin]
    split
    · rename_i hsame
      have hold : (s.withMemory m).indices.lookup target.effect.identity = some index := by
        rw [← hsame]
        exact hlookup
      rw [Expansion.begin_of_lookup hold]
    · exact hlookup
  | ended => exact hlookup
  | refused _ _ ih => exact ih hlookup
  | included _ _ _ ihrequest ihrest => exact ihrest (ihrequest hlookup)
  | copied _ _ ih => exact ih hlookup

/-- The file of the key that an expansion is asked for comes first. -/
theorem Runs.head?_files {key : Text} {m : Memory} {code : List CodeLine}
    (h : Runs r (.request [] key) (.start m) (.ok code) s') :
    ∃ root, Finds r s'.memory key root ∧ s'.files.head? = some root.file := by
  generalize hs : Expansion.start m = s at h
  cases h with
  | repeated _ _ hbegun =>
    rw [← hs] at hbegun
    simp [Expansion.start] at hbegun
  | @unfolded _ _ _ _ target m' _ hlocate _ _ hcopy =>
    rw [← hs] at hlocate hcopy
    have hloads := hcopy.loads
    rw [Expansion.memory_begin] at hloads
    obtain ⟨more, hmore⟩ := hcopy.files_grow
    refine ⟨target, locate_again hlocate hloads, ?_⟩
    rw [← hmore]
    rfl

end

/-! ## Markers -/

/-- Code goes along the given lines, and each of its markers stands in front of a line and shows the
number of that line and the index of its effect. -/
inductive Marked (indices : List (Text × Nat)) :
    List CodeLine → List (SectionId × Nat × Text) → Prop
  | nil : Marked indices [] []
  | copied {id : SectionId} {number : Nat} {line : Text} {code : List CodeLine}
      {lines : List (SectionId × Nat × Text)} :
      Marked indices code lines →
        Marked indices (.copied line :: code) ((id, number, line) :: lines)
  | marker {id : SectionId} {number index : Nat} {line : Text} {code : List CodeLine}
      {lines : List (SectionId × Nat × Text)} :
      indices.lookup id.1 = some index → Marked indices code lines →
        Marked indices (.marker number index :: .copied line :: code) ((id, number, line) :: lines)

namespace Marked

variable {indices : List (Text × Nat)} {code more : List CodeLine}
variable {lines others : List (SectionId × Nat × Text)}

/-- Marked pieces of code are marked when they are put one behind the other. -/
theorem append (h : Marked indices code lines) (h' : Marked indices more others) :
    Marked indices (code ++ more) (lines ++ others) := by
  induction h with
  | nil => exact h'
  | copied _ ih => exact .copied ih
  | marker hindex _ ih => exact .marker hindex ih

/-- Code that is marked by some indices stays so when further indices are recorded. -/
theorem mono (h : Marked indices code lines) {later : List (Text × Nat)}
    (hlater : ∀ {identity index}, indices.lookup identity = some index →
      later.lookup identity = some index) : Marked later code lines := by
  induction h with
  | nil => exact .nil
  | copied _ ih => exact .copied ih
  | marker hindex _ ih => exact .marker (hlater hindex) ih

/-- The line behind a marker, by its place among the lines. -/
theorem line_of_marker (h : Marked indices code lines) {before after : List CodeLine}
    {number index : Nat} (hcode : code = before ++ .marker number index :: after) :
    ∃ line rest id, after = .copied line :: rest ∧
      lines[(copiedLines before).length]? = some (id, number, line) ∧
      indices.lookup id.1 = some index := by
  induction h generalizing before with
  | nil => simp at hcode
  | copied _ ih =>
    cases before with
    | nil => simp at hcode
    | cons first before =>
      rw [List.cons_append] at hcode
      obtain ⟨rfl, htail⟩ := List.cons.inj hcode
      obtain ⟨line, rest, id, hafter, hline, hindex⟩ := ih htail
      exact ⟨line, rest, id, hafter, by simpa [copiedLines] using hline, hindex⟩
  | @marker id number' index' line code lines hindex _ ih =>
    cases before with
    | nil =>
      obtain ⟨hmarker, hafter⟩ := List.cons.inj hcode
      obtain ⟨rfl, rfl⟩ := CodeLine.marker.inj hmarker
      exact ⟨line, code, id, hafter.symm, rfl, hindex⟩
    | cons first before =>
      rw [List.cons_append] at hcode
      obtain ⟨rfl, hbehind⟩ := List.cons.inj hcode
      cases before with
      | nil => simp at hbehind
      | cons second before =>
        rw [List.cons_append] at hbehind
        obtain ⟨rfl, htail⟩ := List.cons.inj hbehind
        obtain ⟨line, rest, id, hafter, hline, hindex⟩ := ih htail
        exact ⟨line, rest, id, hafter, by simpa [copiedLines] using hline, hindex⟩

end Marked

/-- The lines that a job copies by itself belong to a section whose effect has the index that is
shown for them. -/
def Job.OwnedBy (s : Expansion) (owner : SectionId) : Job → Prop
  | .request _ _ => True
  | .copy _ _ index _ _ => s.indices.lookup owner.1 = some index

/-- The markers in the code of a job show the numbers and the effects of the lines behind them. -/
theorem RunsAlong.marked {r : Registry} {m : Memory} {job : Job} {s s' : Expansion} {o : Outline}
    {code : List CodeLine} (h : RunsAlong r m job s o code s') (hparsed : s.memory.cache.Parsed)
    (owner : SectionId) (howner : job.OwnedBy s owner) :
    Marked s'.indices code (o.lines owner) := by
  -- a recorded index stays, so markers that are right when they come up are right at the end
  induction h generalizing owner with
  | repeated | ended => exact .nil
  | @unfolded chain key s s' target m' inner code hlocate _ _ _ _ ih =>
    obtain ⟨hfile, hfound⟩ := hparsed.identity hlocate
    have howned : (Job.copy (chain ++ [(target.found.id, key)]) (Path.directory target.name)
        ((s.withMemory m').begin target).1 target.found.lines true).OwnedBy
        ((s.withMemory m').begin target).2 target.found.id := by
      unfold Job.OwnedBy
      rw [Expansion.lookup_begin, if_pos (hfound.trans hfile.symm)]
    have hmarked := ih (by simpa using hparsed.locate hlocate) _ howned
    simpa only [Outline.lines, List.append_nil] using hmarked
  | included _ hrequest hrest ihrequest ihrest =>
    have hmarked := ihrequest hparsed owner trivial
    have hparsed' := hrequest.runs.loads.parsed hparsed
    rw [Outline.lines_append]
    exact (hmarked.mono hrest.runs.lookup_grow).append
      (ihrest hparsed' owner (hrequest.runs.lookup_grow howner))
  | copied _ hrest ih =>
    have hmarked := ih hparsed owner howner
    unfold markerFor
    split
    · exact .marker (hrest.runs.lookup_grow howner) hmarked
    · exact .copied hmarked

/-- The sections that a job enters are of the effects that their requests lead to. -/
theorem Traced.map_fst_entered {r : Registry} {places : List Nat} {job : Job} {s s' : Expansion}
    {made : List Call} {result : Except Failure (List CodeLine)}
    (h : Traced r places job s made result s') (hs : Indexed s) :
    ((made.filterMap Call.entered).map fun target => target.found.id).map Prod.fst =
      (made.filterMap Call.entered).map fun target => target.effect.identity := by
  rw [List.map_map]
  apply List.map_congr_left
  intro target htarget
  obtain ⟨call, hcall, hentered⟩ := List.mem_filterMap.mp htarget
  obtain ⟨m, hlocate⟩ := h.locate_entered call hcall target hentered
  obtain ⟨hbefore, -, -⟩ := h.keeps (Indexed.invariant r) hs call hcall
  obtain ⟨hfile, hfound⟩ := hbefore.parsed.identity hlocate
  exact hfound.trans hfile.symm

/-- File indices are in order before and after every request, whether the request succeeds or
fails.  The source files of an expansion are therefore all different.  They are listed by the
first request that enters a section of theirs, that of the key first, every request leads to one of
them, and a marker shows the index of the effect that the line behind it belongs to. -/
theorem expand_files_indexed (r : Registry) (key : Text) (m : Memory) (hm : m.cache.Parsed) :
    (∀ call ∈ calls r key m,
      Numbered call.chain call.before ∧ Numbered call.chain call.after) ∧
    ∀ expanded m', expand r key m = (.ok expanded, m') →
      (expanded.files.map SourceFile.identity).Nodup ∧
      expanded.files.map SourceFile.identity =
        (((calls r key m).filterMap Call.entered).map fun target =>
          target.effect.identity).eraseDups ∧
      (∀ call ∈ calls r key m, ∃ target m'',
        locate r call.key call.before.memory = (.ok target, m'') ∧
          target.file.identity ∈ expanded.files.map SourceFile.identity) ∧
      ∃ tree : IncludeTree r m' key, expanded.files.head? = some tree.root.file ∧
        copiedLines expanded.code = (tree.lines.map fun entry => entry.2.2) ∧
        ∀ before number index after,
          expanded.code = before ++ .marker number index :: after →
            ∃ line rest id file, after = .copied line :: rest ∧
              tree.lines[(copiedLines before).length]? = some (id, number, line) ∧
              expanded.files[index]? = some file ∧ file.identity = id.1 := by
  obtain ⟨result, s, htraced, hexpand⟩ := expand_traced r key m
  have hstart : Indexed (.start m) := .start hm
  have hcalls := htraced.keeps (Indexed.invariant r) hstart
  refine ⟨fun call hcall => ?_, fun expanded m' hok => ?_⟩
  · obtain ⟨hbefore, -, hafter⟩ := hcalls call hcall
    obtain ⟨hstack, -, hstack'⟩ := htraced.keeps (Stacked.invariant r) (.start m) call hcall
    exact ⟨hbefore.numbered hstack, hafter.numbered hstack'⟩
  · rw [hexpand, Prod.mk.injEq] at hok
    obtain ⟨hresult, rfl⟩ := hok
    obtain ⟨code, rfl, rfl⟩ : ∃ code, result = .ok code ∧
        expanded = ⟨code, s.files, s.warnings⟩ := by
      cases result with
      | error e => simp [Except.map] at hresult
      | ok code => exact ⟨code, rfl, (Except.ok.inj hresult).symm⟩
    obtain ⟨tree, halong⟩ := htraced.runs.exists_tree
    have hmarked : Marked s.indices code tree.lines := by
      simpa using halong.marked hm tree.root.found.id trivial
    have hs : Indexed s := htraced.runs.keeps (Indexed.invariant r) hstart
    have hlisted := hs.listed
    -- nothing was begun at the start, so what is begun now was entered by requests
    rw [htraced.expanded_eq, List.map_append, htraced.map_fst_entered hstart] at hlisted
    refine ⟨hs.nodup, hlisted, ?_, ?_⟩
    · intro call hcall
      obtain ⟨target, m'', hlocate, -, hbegun⟩ := htraced.locate_begun rfl call hcall
      refine ⟨target, m'', hlocate, hs.mem_identities_iff.mpr ⟨target.found.id.2, ?_⟩⟩
      rw [← ((hcalls call hcall).1.parsed.identity hlocate).2]
      exact hbegun
    · obtain ⟨root, hroot, hhead⟩ := htraced.runs.head?_files
      refine ⟨tree, ?_, halong.copied_tree, ?_⟩
      · rw [tree.finds.unique hroot]
        exact hhead
      · intro before number index after hcode
        obtain ⟨line, rest, id, hafter, hline, hindex⟩ := hmarked.line_of_marker hcode
        obtain ⟨file, hfile, hidentity⟩ := hs.file_index hindex
        exact ⟨line, rest, id, file, hafter, hline, hfile, hidentity⟩

/-- A scene with a file that goes by two names. -/
def reefScene : Registry :=
  ⟨[⟨"coral".toList, some "fx/kelp.glsl".toList, none⟩], "fx".toList, "glsl".toList,
    .table [
      ("fx/reef.glsl".toList, .text ("-- main\n#include \"kelp.stem\"\nreef\n" ++
        "#include \"coral.leaf\"\n#include \"kelp.stem\"\nend\n").toList),
      ("fx/kelp.glsl".toList, .text "-- stem\nstem\n-- leaf\nleaf\n".toList)],
    "/work".toList⟩

/-- Four requests lead to two files, and the last marker goes back to the first of them. -/
theorem expand_reefScene_indexed :
    ∃ expanded m', Cache.empty.Parsed ∧
      expand reefScene "reef.main".toList ⟨.empty, [], []⟩ = (.ok expanded, m') ∧
      expanded.code = [.marker 2 1, .copied "stem".toList, .marker 3 0, .copied "reef".toList,
        .marker 4 1, .copied "leaf".toList, .marker 6 0, .copied "end".toList] ∧
      (calls reefScene "reef.main".toList ⟨.empty, [], []⟩).length = 4 ∧
      (∀ call ∈ calls reefScene "reef.main".toList ⟨.empty, [], []⟩,
        Numbered call.chain call.before ∧ Numbered call.chain call.after) ∧
      (expanded.files.map SourceFile.identity).Nodup ∧
      ∃ tree : IncludeTree reefScene m' "reef.main".toList,
        expanded.files.head? = some tree.root.file ∧
        ∃ id file, tree.lines[3]? = some (id, 6, "end".toList) ∧
          expanded.files[0]? = some file ∧ file.identity = id.1 := by
  have hcache : Cache.empty.Parsed := Cache.parsed_of_entries_eq_nil rfl
  obtain ⟨expanded, m', hexpand, htest⟩ := exists_of_any
    (expand reefScene "reef.main".toList ⟨.empty, [], []⟩)
    (fun expanded => expanded.code == [.marker 2 1, .copied "stem".toList, .marker 3 0,
      .copied "reef".toList, .marker 4 1, .copied "leaf".toList, .marker 6 0,
      .copied "end".toList]) (by decide +kernel)
  have hcode := beq_iff_eq.mp htest
  have hlength : (calls reefScene "reef.main".toList ⟨.empty, [], []⟩).length = 4 := by
    decide +kernel
  obtain ⟨hnumbered, hfiles⟩ := expand_files_indexed reefScene "reef.main".toList
    ⟨.empty, [], []⟩ hcache
  obtain ⟨hnodup, -, -, tree, hhead, -, hmarkers⟩ := hfiles expanded m' hexpand
  obtain ⟨line, rest, id, file, hafter, hline, hfile, hidentity⟩ := hmarkers
    [.marker 2 1, .copied "stem".toList, .marker 3 0, .copied "reef".toList, .marker 4 1,
      .copied "leaf".toList] 6 0 [.copied "end".toList] hcode
  obtain ⟨hend, -⟩ := List.cons.inj hafter
  rw [← CodeLine.copied.inj hend] at hline
  exact ⟨expanded, m', hcache, hexpand, hcode, hlength, hnumbered, hnodup, tree, hhead, id, file,
    hline, hfile, hidentity⟩

end ShaderCompose
