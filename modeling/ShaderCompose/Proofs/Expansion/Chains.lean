import ShaderCompose.Proofs.Expansion.Cycles
import ShaderCompose.Proofs.Expansion.Outline

/-!
# The keys of a cycle

An expansion that comes back to a section which it is still expanding fails with the keys of the
sections that it is in, the outermost first, and the key that leads back.  Whatever was expanded and
left before, these keys are a path of include lines: each of them is included by the section before
it, under the directory of the key that the section was requested by.

The path is carried along every request, so that it is known for those that succeed as well.
-/

set_option autoImplicit false

namespace ShaderCompose

/-! ## Include paths -/

/-- A path of include lines from a root to a key, with the keys on the way and what they stand
for. -/
inductive IncludePath (r : Registry) (m : Memory) (root : Text) :
    List (Text × Target) → Text → Prop
  | start : IncludePath r m root [] root
  | step {visited : List (Text × Target)} {key inner : Text} {target : Target} :
      IncludePath r m root visited key → Finds r m key target → inner ∈ target.includeKeys →
        IncludePath r m root (visited ++ [(key, target)]) inner

namespace IncludePath

variable {r : Registry} {m : Memory} {root key : Text} {visited : List (Text × Target)}

/-- The first key of a path is its root. -/
theorem head? (h : IncludePath r m root visited key) :
    (visited.map Prod.fst ++ [key]).head? = some root := by
  induction h with
  | start => rfl
  | step _ _ _ ih =>
    rw [List.map_append, List.map_singleton]
    rw [List.head?_append, ih]
    rfl

/-- Each key of a path is found, and stands for the target beside it. -/
theorem finds (h : IncludePath r m root visited key) :
    List.Forall₂ (Finds r m) (visited.map Prod.fst) (visited.map Prod.snd) := by
  induction h with
  | start => exact .nil
  | step _ hfinds _ ih =>
    rw [List.map_append, List.map_append]
    exact List.rel_append ih (.cons hfinds .nil)

/-- Each key behind the root is included by what stands before it. -/
theorem included (h : IncludePath r m root visited key) {i : Nat} {inner : Text}
    (hinner : (visited.map Prod.fst ++ [key])[i + 1]? = some inner) :
    ∃ target, (visited.map Prod.snd)[i]? = some target ∧ inner ∈ target.includeKeys := by
  induction h with
  | start => simp at hinner
  | @step visited key last target _ _ hincluded ih =>
    have hmap : (visited ++ [(key, target)]).map Prod.fst = visited.map Prod.fst ++ [key] := by simp
    rw [hmap] at hinner
    rw [List.map_append]
    have hlength : (visited.map Prod.fst ++ [key]).length = visited.length + 1 := by simp
    rcases Nat.lt_or_ge (i + 1) (visited.length + 1) with hlt | hge
    · rw [List.getElem?_append_left (by omega)] at hinner
      obtain ⟨before, hbefore, hmem⟩ := ih hinner
      have hbound := (List.getElem?_eq_some_iff.mp hbefore).1
      exact ⟨before, by rwa [List.getElem?_append_left hbound], hmem⟩
    · -- the last key is included by the target that was added behind the others
      have hbound := (List.getElem?_eq_some_iff.mp hinner).1
      rw [List.length_append, hlength, List.length_singleton] at hbound
      obtain rfl : i = visited.length := by omega
      obtain rfl : last = inner := by
        rw [List.getElem?_append_right (by omega), hlength] at hinner
        simpa using hinner
      exact ⟨target, by simp, hincluded⟩

end IncludePath

/-! ## The path of a request -/

/-- The sections that are visited on a path, with the keys for them. -/
def chainOf (visited : List (Text × Target)) : Chain :=
  visited.map fun request => (request.2.found.id, request.1)

/-- A job comes up at the end of a path: the path leads to the requested key, or to the section
whose lines are copied. -/
def Job.EndsPath (r : Registry) (m : Memory) (root : Text) : Job → Prop
  | .request chain key => ∃ visited, chain = chainOf visited ∧ IncludePath r m root visited key
  | .copy chain dir _ lines _ =>
    ∃ visited key target, chain = chainOf (visited ++ [(key, target)]) ∧
      IncludePath r m root visited key ∧ Finds r m key target ∧
      dir = Path.directory target.name ∧ lines ⊆ target.found.lines

section

variable {r : Registry} {m : Memory} {root : Text} {chain : Chain} {dir line key : Text}
variable {index number : Nat} {pending : Bool}

/-- An include line leads one step further. -/
theorem Job.EndsPath.request {rest : List (Nat × Text)}
    (h : (Job.copy chain dir index ((number, line) :: rest) pending).EndsPath r m root)
    (hkey : Include.key? line = some key) :
    (Job.request chain (Include.relativeTo dir key)).EndsPath r m root := by
  obtain ⟨visited, outer, target, hchain, hpath, hfinds, rfl, hlines⟩ := h
  have hincluded := Target.mem_includeKeys (hlines List.mem_cons_self) hkey
  exact ⟨visited ++ [(outer, target)], hchain, hpath.step hfinds hincluded⟩

/-- The lines that are left to be copied are at the end of the same path. -/
theorem Job.EndsPath.rest {entry : Nat × Text} {rest : List (Nat × Text)}
    (h : (Job.copy chain dir index (entry :: rest) pending).EndsPath r m root) (later : Bool) :
    (Job.copy chain dir index rest later).EndsPath r m root := by
  obtain ⟨visited, outer, target, hchain, hpath, hfinds, hdir, hlines⟩ := h
  exact ⟨visited, outer, target, hchain, hpath, hfinds, hdir,
    fun _ hentry => hlines (List.mem_cons_of_mem _ hentry)⟩

/-- If a requested key is found, its section is at the end of the path, and so are the lines that
are copied from it. -/
theorem Job.EndsPath.copy {target : Target} (h : (Job.request chain key).EndsPath r m root)
    (hfinds : Finds r m key target) :
    (Job.copy (chain ++ [(target.found.id, key)]) (Path.directory target.name) index
      target.found.lines true).EndsPath r m root := by
  obtain ⟨visited, rfl, hpath⟩ := h
  exact ⟨visited, key, target, by simp [chainOf], hpath, hfinds, rfl, List.Subset.refl _⟩

/-- In a later memory, every request that is made for a job at the end of a path is at the end of a
path, and it leads to what it led to when it was made. -/
theorem Traced.endsPath {places : List Nat} {job : Job} {s s' : Expansion} {made : List Call}
    {result : Except Failure (List CodeLine)} (h : Traced r places job s made result s')
    (hlater : Cache.Loads r s'.memory.cache m.cache) (hjob : job.EndsPath r m root) :
    ∀ call ∈ made, (Job.request call.chain call.key).EndsPath r m root ∧
      ∀ target m', locate r call.key call.before.memory = (.ok target, m') →
        Finds r m call.key target := by
  -- what a request finds is found in every later memory; each unfolding makes the path longer
  induction h with
  | unlocated hlocate =>
    intro call hcall
    rw [List.mem_singleton.mp hcall]
    refine ⟨hjob, ?_⟩
    intro target m' hok
    simp [hlocate] at hok
  | cyclic hlocate | repeated hlocate =>
    intro call hcall
    rw [List.mem_singleton.mp hcall]
    refine ⟨hjob, ?_⟩
    intro target m' hok
    have hsame := hlocate.symm.trans hok
    simp only [Prod.mk.injEq, Except.ok.injEq] at hsame
    obtain ⟨rfl, rfl⟩ := hsame
    exact locate_again hlocate hlater
  | @unfolded places chain key s s' target m' made result hlocate _ _ hcopy ih =>
    have hloads := hcopy.runs.loads.trans hlater
    rw [Expansion.memory_begin] at hloads
    have hfinds : Finds r m key target := locate_again hlocate hloads
    intro call hcall
    rcases List.mem_cons.mp hcall with rfl | hcall
    · refine ⟨hjob, ?_⟩
      intro other m'' hok
      have hsame := hlocate.symm.trans hok
      simp only [Prod.mk.injEq, Except.ok.injEq] at hsame
      rw [← hsame.1]
      exact hfinds
    · exact ih hlater (hjob.copy hfinds) call hcall
  | ended => simp
  | refused hkey _ ih => exact ih hlater (hjob.request hkey)
  | included hkey _ hrest ihrequest ihrest =>
    intro call hcall
    rcases List.mem_append.mp hcall with hcall | hcall
    · exact ihrequest (hrest.runs.loads.trans hlater) (hjob.request hkey) call hcall
    · exact ihrest hlater (hjob.rest true) call hcall
  | copied _ _ ih => exact ih hlater (hjob.rest _)

end

/-! ## The keys of the failure -/

/-- A section that is among different ones is at one place only. -/
theorem existsUnique_of_mem_ids {targets : List Target} {id : SectionId}
    (hnodup : (targets.map fun target => target.found.id).Nodup)
    (hid : id ∈ targets.map fun target => target.found.id) :
    ∃! j : Nat, ∃ target, targets[j]? = some target ∧ target.found.id = id := by
  obtain ⟨target, hmem, rfl⟩ := List.mem_map.mp hid
  obtain ⟨j, hj⟩ := List.mem_iff_getElem?.mp hmem
  refine ⟨j, ⟨target, hj, rfl⟩, ?_⟩
  rintro i ⟨other, hi, hsame⟩
  have hbound : i < (targets.map fun target => target.found.id).length := by
    rw [List.length_map]
    exact (List.getElem?_eq_some_iff.mp hi).1
  apply (List.getElem?_inj hbound hnodup).mp
  rw [List.getElem?_map, List.getElem?_map, hi, hj, Option.map_some, Option.map_some, hsame]

/-- The keys that an expansion fails with for a cycle are a path of include lines from the key that
is expanded, of one step at least.  The sections on the way are different, and the last key leads
to exactly one of them. -/
theorem expand_cyclicInclude_path {r : Registry} {key : Text} {m m' : Memory} {keys : List Text}
    (h : expand r key m = (.error (.effect (.cyclicInclude keys)), m')) :
    ∃ (targets : List Target) (last : Target),
      List.Forall₂ (Finds r m') keys (targets ++ [last]) ∧
      keys.head? = some key ∧ 2 ≤ keys.length ∧
      (∀ i inner, keys[i + 1]? = some inner →
        ∃ target, targets[i]? = some target ∧ inner ∈ target.includeKeys) ∧
      (targets.map fun target => target.found.id).Nodup ∧
      ∃! j : Nat, ∃ target, targets[j]? = some target ∧ target.found.id = last.found.id := by
  obtain ⟨result, s, htraced, hexpand⟩ := expand_traced r key m
  rw [hexpand, Prod.mk.injEq] at h
  obtain ⟨hresult, rfl⟩ := h
  have hfailed : result = .error (.effect (.cyclicInclude keys)) := by
    cases result with
    | ok code => simp [Except.map] at hresult
    | error e => simpa [Except.map] using hresult
  obtain ⟨earlier, call, hcalls, -, hfails⟩ := htraced.last_fails hfailed
  have hcall : call ∈ calls r key m := by rw [hcalls]; simp
  -- the last request is the one that fails, and a single key does not fail for a cycle
  obtain ⟨m₁, hlocate⟩ | ⟨last, m₁, hlocate, hcycle, herror⟩ := hfails
  · simpa [Failure.ofNesting] using ofNesting_of_locate hlocate
  have hkeys : keys = call.chain.map Prod.snd ++ [call.key] := by simpa using herror
  have hstart : (Job.request [] key).EndsPath r s.memory key := ⟨[], rfl, .start⟩
  obtain ⟨⟨visited, hchain, hpath⟩, hfinds⟩ := htraced.endsPath .refl hstart call hcall
  obtain ⟨hstack, -, -⟩ := htraced.keeps (Stacked.invariant r) (.start m) call hcall
  have hsnd : call.chain.map Prod.snd = visited.map Prod.fst := by
    rw [hchain, chainOf, List.map_map]
    rfl
  have hfst : call.chain.map Prod.fst =
      (visited.map Prod.snd).map fun target => target.found.id := by
    rw [hchain, chainOf, List.map_map, List.map_map]
    rfl
  have hdistinct := hstack.distinct
  rw [hfst] at hdistinct hcycle
  rw [hkeys, hsnd]
  refine ⟨visited.map Prod.snd, last, ?_, hpath.head?, ?_, ?_, hdistinct,
    existsUnique_of_mem_ids hdistinct hcycle⟩
  · exact List.rel_append hpath.finds (.cons (hfinds last m₁ hlocate) .nil)
  · have hsome : visited ≠ [] := by
      rintro rfl
      simp at hcycle
    have hpos := List.length_pos_of_ne_nil hsome
    rw [List.length_append, List.length_map, List.length_singleton]
    omega
  · exact fun i inner hinner => hpath.included hinner

/-- A scene with a cycle below the root, behind a section that is included twice and finished. -/
def whirlScene : Registry :=
  ⟨[], "fx".toList, "glsl".toList,
    .table [
      ("fx/top.glsl".toList, .text ("-- main\n#include \"lib/sand.grain\"\ntop\n" ++
        "#include \"lib/./whirl.in\"\n").toList),
      ("fx/lib/whirl.glsl".toList, .text ("-- in\n#include \"sand.grain\"\nin\n" ++
        "#include <../lib/whirl.out>\n-- out\nout\n#include whirl.in.deep\n").toList),
      ("fx/lib/sand.glsl".toList, .text "-- grain\ngrain\n".toList)],
    "/work".toList⟩

/-- The keys from the root into the whirl and back to its first section. -/
def whirlKeys : List Text :=
  ["top.main".toList, "lib/whirl.in".toList, "lib/whirl.out".toList, "lib/whirl.in.deep".toList]

/-- The last of the four keys leads back to the section of the second one. -/
theorem expand_whirlScene_path :
    ∃ m', expand whirlScene "top.main".toList ⟨.empty, [], []⟩ =
        (.error (.effect (.cyclicInclude whirlKeys)), m') ∧
      ∃ (targets : List Target) (last : Target),
        List.Forall₂ (Finds whirlScene m') whirlKeys (targets ++ [last]) ∧
        (∀ i inner, whirlKeys[i + 1]? = some inner →
          ∃ target, targets[i]? = some target ∧ inner ∈ target.includeKeys) ∧
        (targets.map fun target => target.found.id).Nodup ∧
        ∃! j : Nat, ∃ target, targets[j]? = some target ∧ target.found.id = last.found.id := by
  obtain ⟨m', hexpand⟩ := exists_of_isError
    (expand whirlScene "top.main".toList ⟨.empty, [], []⟩)
    (.effect (.cyclicInclude whirlKeys)) (by decide +kernel)
  obtain ⟨targets, last, hfinds, -, -, hincluded, hnodup, honce⟩ :=
    expand_cyclicInclude_path hexpand
  exact ⟨m', hexpand, targets, last, hfinds, hincluded, hnodup, honce⟩

end ShaderCompose
