import Mathlib.Data.Set.Finite.Basic
import ShaderCompose.Proofs.Expansion.Cycles
import ShaderCompose.Proofs.Relocation.Keys

/-!
# Includes without an end

Where the sections that are reached from a root have neither an end nor a cycle, an expansion fails
for depth, however deep it may go.  This takes a reader that has infinitely many sources.  A
function that gives one and the same text for every source is such a reader, if that text includes
its own section from a directory further down: each source leads to another one in the next
directory.
-/

set_option autoImplicit false

namespace ShaderCompose

open Relation (ReflTransGen TransGen)

/-! ## Expansions that do not end -/

section

variable {ρ : Type} [SourceReader ρ] {r : Registry ρ} {root : Text} {known : SourceFile → Prop}
variable {m : Memory}

/-- Without a cycle and with no end to the sections that are reached, an expansion fails for depth,
however deep it may go. -/
theorem nesting_of_not_reachesWithin (hr : r.Consistent known) (hm : m.cache.Mirrors r known)
    (hlinked : r.Linked root) (hcycle : ¬ r.HasCycle root)
    (hreach : ∀ sections, ¬ r.ReachesWithin root sections) (depth : Nat) :
    ∃ m', expandWithin r depth root m = (.error .nesting, m') := by
  by_cases hdepth : (expandKey r depth [] root (.start m)).1 = .error .nesting
  · refine ⟨(expandKey r depth [] root (.start m)).2.memory, ?_⟩
    unfold expandWithin
    rcases hkey : expandKey r depth [] root (.start m) with ⟨result, s⟩
    rw [hkey] at hdepth
    obtain rfl : result = .error .nesting := hdepth
    rfl
  · obtain ⟨result, s, htraced, -⟩ := expandWithin_traced hdepth
    cases result with
    | error e => exact absurd (htraced.runs.hasCycle hr hlinked hm).2 hcycle
    | ok code => exact absurd (htraced.runs.reachesWithin hr hlinked hm).2 (hreach _)

end

/-! ## The same text everywhere -/

/-- A registry whose reader has the same text for every source. -/
def Registry.echo (text : Text) : Registry (SourceFile → ReadOutcome) :=
  ⟨[], "fx".toList, "glsl".toList, fun _ => .text text, "/work".toList⟩

/-- What is read where all sources have the same text depends on nothing, so on the identity of a
source only. -/
theorem Registry.consistent_echo (text : Text) : (echo text).Consistent fun _ => True where
  known_of_resolve _ := trivial
  read_congr _ _ _ hread := hread

/-- The text of every source of the spiral. -/
def spiralText : Text := "-- S\n#include a/e.S\n".toList

/-- Sources that lead from each directory to the next one. -/
def spiralScene : Registry (SourceFile → ReadOutcome) := .echo spiralText

/-- The block that stands in every source. -/
def spiralBlock : Block := ⟨['S'], 1, ["#include a/e.S".toList]⟩

/-- Where the source is that is some directories down the spiral. -/
def spiralLocation (n : Nat) : Text :=
  Text.joinWith ['/'] ("fx".toList :: List.replicate n ['a'] ++ ["e.glsl".toList])

/-- The section of that source. -/
def spiralSection (n : Nat) : Section :=
  spiralBlock.toSection (Path.absolute "/work".toList (spiralLocation n))

/-- A key for that section. -/
structure Winds (n : Nat) (key : Text) : Prop where
  plain : key.Plain
  relative : Path.isAbsolute key = false
  lastPart : Path.lastPart key = "e.S".toList
  directory : Path.parts (Path.directory key) = List.replicate n ['a']

/-- What the section includes for a key: the same from the next directory on. -/
def innerKey (key : Text) : Text := Include.relativeTo (Path.directory key) "a/e.S".toList

/-- The spiral never leads back to an outer directory. -/
theorem parent_notMem_spiral (first : List Text) (last : Text) (n : Nat)
    (hfirst : Path.parent ∉ first) (hlast : last ≠ Path.parent) :
    Path.parent ∉ first ++ List.replicate n ['a'] ++ [last] := by
  simp only [List.mem_append, List.mem_replicate, List.mem_singleton, not_or]
  refine ⟨⟨hfirst, ?_⟩, hlast.symm⟩
  rintro ⟨-, h⟩
  exact absurd h (by decide)

/-- Every source has the one section. -/
theorem parse_spiralText (identity : Text) :
    Effect.parse spiralText identity none =
      ⟨identity, none, [spiralBlock.toSection identity], []⟩ := by
  have hblocks : blocksOf spiralText = [spiralBlock] := by decide +kernel
  unfold Effect.parse
  rw [hblocks]
  rfl

/-- The identity of a source has a part for each directory, so the identities differ. -/
theorem length_parts_spiralSection (n : Nat) :
    (Path.parts (spiralSection n).identity).length = n + 3 := by
  have hmem : ∀ part ∈ "fx".toList :: List.replicate n ['a'] ++ ["e.glsl".toList],
      part ∈ Path.parts "fx/a/e.glsl".toList := by
    intro part hpart
    have hparts : Path.parts "fx/a/e.glsl".toList =
        ["fx".toList, ['a'], "e.glsl".toList] := by decide
    rw [hparts]
    simp only [List.cons_append, List.mem_cons, List.mem_append, List.mem_replicate] at hpart ⊢
    tauto
  have habsolute : Path.isAbsolute (spiralLocation n) = false := Path.isAbsolute_joinWith hmem
  have hlocation : Path.parts (spiralLocation n) = _ := Path.parts_joinWith hmem
  have hrooted :
      Path.isAbsolute (Path.join (Path.rooted "/work".toList) (spiralLocation n)) = true :=
    Path.isAbsolute_join (Path.isAbsolute_rooted _) _
  have hparts : Path.parts (Path.join (Path.rooted "/work".toList) (spiralLocation n)) =
      ["work".toList, "fx".toList] ++ List.replicate n ['a'] ++ ["e.glsl".toList] := by
    rw [Path.parts_join habsolute, hlocation]
    rfl
  have hidentity : (spiralSection n).identity =
      Path.normalize (Path.join (Path.rooted "/work".toList) (spiralLocation n)) := rfl
  have hnone := parent_notMem_spiral ["work".toList, "fx".toList] "e.glsl".toList n
    (by decide) (by decide)
  rw [hidentity, Path.parts_normalize, Path.resolvedParts_of_isAbsolute hrooted, hparts,
    Path.foldl_descend_of_notMem hnone]
  simp

/-- Sections of different sources are different. -/
theorem spiralSection_injective : Function.Injective fun n => (spiralSection n).id := by
  intro n k h
  have hidentity : (spiralSection n).identity = (spiralSection k).identity := congrArg Prod.fst h
  have hn := length_parts_spiralSection n
  have hk := length_parts_spiralSection k
  rw [hidentity] at hn
  omega

namespace Winds

variable {n : Nat} {key : Text}

/-- A key for a source stands for a file in its directory. -/
theorem defaultLocation (h : Winds n key) :
    spiralScene.defaultLocation (Path.join (Path.directory key) ['e']) = spiralLocation n := by
  have hname : '/' ∉ ['e'] := by decide
  have hfile : Path.isAbsolute "e.glsl".toList = false := by decide
  have hdir : Path.isAbsolute (Path.directory key) = false := by
    rw [Path.isAbsolute_directory, h.relative]
  have hpath : spiralScene.defaultLocation (Path.join (Path.directory key) ['e']) =
      Path.normalize (Path.join (Path.join "fx".toList (Path.directory key)) "e.glsl".toList) := by
    have hjoin := Path.join_append (List.cons_ne_nil 'e' []) (Path.isAbsolute_of_notMem hname)
      (Path.join "fx".toList (Path.directory key)) ".glsl".toList
    unfold Registry.defaultLocation
    rw [Path.directory_join_directory hname, Path.lastPart_join (Path.isAbsolute_of_notMem hname)]
    exact congrArg Path.normalize hjoin
  have habsolute : Path.isAbsolute
      (Path.join (Path.join "fx".toList (Path.directory key)) "e.glsl".toList) = false := by
    rw [Path.isAbsolute_join_of_not_isAbsolute hfile, Path.isAbsolute_join_of_not_isAbsolute hdir]
    rfl
  have hparts : Path.parts
      (Path.join (Path.join "fx".toList (Path.directory key)) "e.glsl".toList) =
        ["fx".toList] ++ List.replicate n ['a'] ++ ["e.glsl".toList] := by
    rw [Path.parts_join hfile, Path.parts_join hdir, h.directory]
    rfl
  have hsettle := Path.settle_of_notMem
    (parent_notMem_spiral ["fx".toList] "e.glsl".toList n (by decide) (by decide))
  rw [hpath, Path.normalize_of_settle_ne_nil habsolute (by rw [hparts, hsettle]; simp), hparts,
    hsettle]
  rfl

/-- A key for a source leads to the section there. -/
theorem target (h : Winds n key) :
    ∃ target, spiralScene.target key = .ok target ∧ target.found = spiralSection n ∧
      target.name = Path.join (Path.directory key) ['e'] := by
  have hsplit : EffectKey.split key = .ok ⟨Path.join (Path.directory key) ['e'], ['S']⟩ := by
    unfold EffectKey.split
    rw [EffectKey.split?_of_plain h.plain, h.lastPart]
    rfl
  have hplain : (Path.join (Path.directory key) ['e']).Plain :=
    Path.plain_join (h.plain.mono fun c => Path.mem_of_mem_directory) (by decide)
  have hresolve : spiralScene.resolve (Path.join (Path.directory key) ['e']) =
      .ok (spiralScene.fileAt (Path.join (Path.directory key) ['e']) (spiralLocation n)) := by
    unfold Registry.resolve
    rw [Text.replaceChar_of_plain hplain, ← h.defaultLocation]
    rfl
  have hread : spiralScene.read (spiralScene.fileAt (Path.join (Path.directory key) ['e'])
      (spiralLocation n)) = .ok spiralText := rfl
  have hbest : ∀ identity, (Effect.parse spiralText identity none).bestSection ['S'] =
      some (spiralBlock.toSection identity) := by
    intro identity
    rw [parse_spiralText]
    rfl
  unfold Registry.target
  simp only [hsplit, hresolve, hread, hbest]
  exact ⟨_, rfl, rfl, rfl⟩

/-- The section that a key stands for is that of its source. -/
theorem sectionOf? (h : Winds n key) :
    spiralScene.sectionOf? key = some (spiralSection n).id := by
  obtain ⟨target, htarget, hfound, -⟩ := h.target
  rw [sectionOf?_of_target htarget, hfound]

/-- The section has one include line. -/
theorem includeKeys {target : Target} (h : Winds n key)
    (htarget : spiralScene.target key = .ok target) : target.includeKeys = [innerKey key] := by
  obtain ⟨other, hother, hfound, hname⟩ := h.target
  obtain rfl : other = target := Except.ok.inj (hother.symm.trans htarget)
  have hlines : (spiralSection n).lines = [(2, "#include a/e.S".toList)] :=
    lines_toSection_of_unbroken (by decide) _
  have hkey : Include.key? "#include a/e.S".toList = some "a/e.S".toList := by decide +kernel
  unfold Target.includeKeys innerKey
  rw [hfound, hlines, hname, Path.directory_join_directory (by decide)]
  simp only [List.filterMap_cons, List.filterMap_nil, hkey, Option.map_some]

/-- What is included there is the section of the next source. -/
theorem inner (h : Winds n key) : Winds (n + 1) (innerKey key) := by
  have hkey : Path.isAbsolute "a/e.S".toList = false := by decide
  have habsolute : Path.isAbsolute (Path.join (Path.directory key) "a/e.S".toList) = false := by
    rw [Path.isAbsolute_join_of_not_isAbsolute hkey, Path.isAbsolute_directory, h.relative]
  have hparts : Path.parts (Path.join (Path.directory key) "a/e.S".toList) =
      List.replicate (n + 1) ['a'] ++ ["e.S".toList] := by
    rw [Path.parts_join hkey, h.directory, List.replicate_succ', List.append_assoc]
    rfl
  have hsettle : Path.settle (Path.parts (Path.join (Path.directory key) "a/e.S".toList)) =
      List.replicate (n + 1) ['a'] ++ ["e.S".toList] := by
    rw [hparts]
    exact Path.settle_of_notMem (parent_notMem_spiral [] "e.S".toList (n + 1) (by decide)
      (by decide))
  obtain ⟨hlast, hdirectory⟩ := Path.normalize_of_settle habsolute hsettle
  have hplain : (Path.join (Path.directory key) "a/e.S".toList).Plain :=
    Path.plain_join (h.plain.mono fun c => Path.mem_of_mem_directory) (by decide)
  refine ⟨Path.plain_normalize hplain, ?_, hlast, hdirectory⟩
  unfold innerKey Include.relativeTo
  rw [Path.isAbsolute_normalize, habsolute]

end Winds

/-! ## The spiral -/

/-- The key that the spiral starts from. -/
def spiralRoot : Text := "e.S".toList

/-- The spiral starts without any directory. -/
theorem winds_spiralRoot : Winds 0 spiralRoot :=
  ⟨by decide +kernel, by decide, by decide, by decide⟩

/-- All keys that are reached are for sources of the spiral. -/
theorem winds_of_reaches {key : Text} (h : spiralScene.Reaches spiralRoot key) :
    ∃ n, Winds n key := by
  induction h with
  | refl => exact ⟨0, winds_spiralRoot⟩
  | @tail key inner _ hstep ih =>
    obtain ⟨n, hkey⟩ := ih
    obtain ⟨target, htarget, hinner⟩ := hstep
    rw [hkey.includeKeys htarget, List.mem_singleton] at hinner
    exact ⟨n + 1, hinner ▸ hkey.inner⟩

/-- All sources of the spiral are reached. -/
theorem exists_reaches_winds (n : Nat) :
    ∃ key, spiralScene.Reaches spiralRoot key ∧ Winds n key := by
  induction n with
  | zero => exact ⟨spiralRoot, .refl, winds_spiralRoot⟩
  | succ n ih =>
    obtain ⟨key, hreach, hkey⟩ := ih
    obtain ⟨target, htarget, -⟩ := hkey.target
    have hinner : innerKey key ∈ target.includeKeys := by
      rw [hkey.includeKeys htarget]
      exact List.mem_singleton_self _
    exact ⟨innerKey key, hreach.tail ⟨target, htarget, hinner⟩, hkey.inner⟩

/-- Every key that is reached stands for a section, and keys for one section include the same
one. -/
theorem spiralScene_linked : spiralScene.Linked spiralRoot where
  resolves hreach := by
    obtain ⟨n, hkey⟩ := winds_of_reaches hreach
    obtain ⟨target, htarget, -⟩ := hkey.target
    exact ⟨target, htarget⟩
  agrees {key other target target'} hreach hother htarget htarget' hsame := by
    obtain ⟨n, hkey⟩ := winds_of_reaches hreach
    obtain ⟨k, hkey'⟩ := winds_of_reaches hother
    have hn := (sectionOf?_of_target htarget).symm.trans hkey.sectionOf?
    have hk := (sectionOf?_of_target htarget').symm.trans hkey'.sectionOf?
    rw [hsame] at hn
    obtain rfl : n = k := spiralSection_injective (Option.some.inj (hn.symm.trans hk))
    rw [hkey.includeKeys htarget, hkey'.includeKeys htarget', List.map_singleton,
      List.map_singleton, hkey.inner.sectionOf?, hkey'.inner.sectionOf?]

/-- An include step leads one directory further down. -/
theorem length_parts_of_sectionStep {a b : SectionId}
    (h : spiralScene.SectionStep spiralRoot a b) :
    (Path.parts b.1).length = (Path.parts a.1).length + 1 := by
  obtain ⟨key, target, inner, hreach, htarget, rfl, hinner, hb⟩ := h
  obtain ⟨n, hkey⟩ := winds_of_reaches hreach
  rw [hkey.includeKeys htarget, List.mem_singleton] at hinner
  rw [hinner, hkey.inner.sectionOf?] at hb
  have ha := Option.some.inj ((sectionOf?_of_target htarget).symm.trans hkey.sectionOf?)
  have hn : (Path.parts (spiralSection n).id.1).length = n + 3 := length_parts_spiralSection n
  have hinner : (Path.parts (spiralSection (n + 1)).id.1).length = n + 1 + 3 :=
    length_parts_spiralSection (n + 1)
  rw [ha, ← Option.some.inj hb, hn, hinner]

/-- The spiral has no cycle. -/
theorem spiralScene_acyclic : ¬ spiralScene.HasCycle spiralRoot := by
  have hlonger : ∀ {a b : SectionId}, TransGen (spiralScene.SectionStep spiralRoot) a b →
      (Path.parts a.1).length < (Path.parts b.1).length := by
    intro a b h
    induction h with
    | single hstep =>
      rw [length_parts_of_sectionStep hstep]
      omega
    | tail _ hstep ih =>
      rw [length_parts_of_sectionStep hstep]
      omega
  rintro ⟨-, b, -, -, hcycle⟩
  exact absurd (hlonger hcycle) (by omega)

/-- The spiral reaches more sections than any list has. -/
theorem spiralScene_unbounded (sections : List SectionId) :
    ¬ spiralScene.ReachesWithin spiralRoot sections := by
  intro h
  have hrange : Set.range (fun n => (spiralSection n).id) ⊆ { id | id ∈ sections } := by
    rintro _ ⟨n, rfl⟩
    obtain ⟨key, hreach, hkey⟩ := exists_reaches_winds n
    exact h key _ hreach hkey.sectionOf?
  exact Set.infinite_range_of_injective spiralSection_injective
    ((List.finite_toSet sections).subset hrange)

end ShaderCompose
