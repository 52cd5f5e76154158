import ShaderCompose.Proofs.Expansion.Endless
import ShaderCompose.Session

/-!
# Cycles are found exactly

If every key that is reached from a root stands for a section, and only finitely many sections are
reached, then an expansion that may go deeper than their number ends: it fails for a cycle if there
is one, and succeeds otherwise.  Readers whose sources can be listed never have more sections than
the bound on the depth.

Three conditions are about more than the includes.  A function that answers for every source can
lead from each section to a new one, without a cycle and without an end; a cache can hold what
another reader gave for a source, so that a cycle in the sources is not seen; and an expander serves
one request only.
-/

set_option autoImplicit false

namespace ShaderCompose

variable {ρ : Type} [SourceReader ρ]

/-! ## Outcomes -/

/-- An outcome tells whether there is a cycle: it is a failure for a cycle if and only if there is
one, and a success otherwise. -/
def TellsCycle (outcome : Except Failure Expanded × Memory) (cycle : Prop) : Prop :=
  ((∃ keys m', outcome = (.error (.effect (.cyclicInclude keys)), m')) ↔ cycle) ∧
    (¬ cycle → ∃ expanded m', outcome = (.ok expanded, m'))

section

variable {r : Registry ρ} {root : Text} {known : SourceFile → Prop} {m : Memory}

/-- An expansion that does not fail for depth tells whether there is a cycle. -/
theorem tellsCycle_of_ne_nesting {depth : Nat} (hr : r.Consistent known)
    (hm : m.cache.Mirrors r known) (hlinked : r.Linked root)
    (hdepth : (expandKey r depth [] root (.start m)).1 ≠ .error .nesting) :
    TellsCycle (expandWithin r depth root m) (r.HasCycle root) := by
  obtain ⟨result, s, htraced, hexpand⟩ := expandWithin_traced hdepth
  rw [hexpand]
  cases result with
  | error e =>
    obtain ⟨⟨keys, rfl⟩, hcycle⟩ := htraced.runs.hasCycle hr hlinked hm
    exact ⟨⟨fun _ => hcycle, fun _ => ⟨keys, s.memory, rfl⟩⟩, fun hnone => absurd hcycle hnone⟩
  | ok code =>
    have hnone := (htraced.runs.reachesWithin hr hlinked hm).1
    refine ⟨⟨?_, fun hcycle => absurd hcycle hnone⟩, fun _ => ⟨_, s.memory, rfl⟩⟩
    rintro ⟨keys, m', heq⟩
    simp [Except.map] at heq

/-- An expansion with a reader whose sources can be listed tells whether there is a cycle. -/
theorem tellsCycle_expand {r : Registry} (hr : r.Consistent known) (hm : m.cache.Mirrors r known)
    (hlinked : r.Linked root) : TellsCycle (expand r root m) (r.HasCycle root) :=
  tellsCycle_of_ne_nesting hr hm hlinked (expandKey_start_ne_nesting r root m)

/-- A search from a root stays within the sections that are reached, as long as the cache mirrors
the sources. -/
theorem Registry.ReachesWithin.confines {sections : List SectionId}
    (h : r.ReachesWithin root sections) (hr : r.Consistent known) :
    r.Confines (r.Reaches root) (·.Mirrors r known) sections where
  load hm hload := Cache.Loads.mirrors hr (.single hload) hm
  found {key m m' target} hreach hm hlocate := by
    have htarget := target_of_locate_eq_ok hr hm hlocate
    exact h key target.bare.found.id hreach (sectionOf?_of_target htarget)
  includes hreach hm hlocate hinner :=
    hreach.tail ⟨_, target_of_locate_eq_ok hr hm hlocate, hinner⟩

/-- An expansion that may go deeper than there are sections to be reached does not fail for
depth. -/
theorem Registry.ReachesWithin.ne_nesting {sections : List SectionId}
    (h : r.ReachesWithin root sections) (hr : r.Consistent known) (hm : m.cache.Mirrors r known)
    {depth : Nat} (hdepth : sections.length < depth) :
    (expandKey r depth [] root (.start m)).1 ≠ .error .nesting :=
  (h.confines hr).start_ne_nesting hdepth .refl hm

end

/-! ## Checking that keys are linked -/

/-- A check of keys: what they include is among them, and those for one section include the same
sections. -/
def Registry.linkedOn (r : Registry ρ) (keys : List Text) : Bool :=
  keys.all fun key =>
    match r.target key with
    | .error _ => false
    | .ok target =>
      target.includeKeys.all keys.contains && keys.all fun other =>
        match r.target other with
        | .error _ => false
        | .ok target' =>
          target.found.id != target'.found.id ||
            target.includeKeys.map r.sectionOf? == target'.includeKeys.map r.sectionOf?

/-- All keys that are reached from one that passes the check are among the checked ones. -/
theorem Registry.mem_of_linkedOn {r : Registry ρ} {keys : List Text} {root key : Text}
    (h : r.linkedOn keys = true) (hroot : root ∈ keys) (hreach : r.Reaches root key) :
    key ∈ keys := by
  induction hreach with
  | refl => exact hroot
  | @tail key inner _ hstep ih =>
    obtain ⟨target, htarget, hinner⟩ := hstep
    have hpass := List.all_eq_true.mp h key ih
    simp only [htarget, Bool.and_eq_true, List.all_eq_true] at hpass
    simpa using hpass.1 inner hinner

/-- Keys that pass the check are linked from any of them. -/
theorem Registry.linked_of_linkedOn {r : Registry ρ} (keys : List Text) {root : Text}
    (h : r.linkedOn keys = true) (hroot : root ∈ keys) : r.Linked root := by
  have hkey := List.all_eq_true.mp h
  refine ⟨?_, ?_⟩
  · intro key hreach
    have hpass := hkey key (mem_of_linkedOn h hroot hreach)
    cases htarget : r.target key with
    | error e => simp [htarget] at hpass
    | ok target => exact ⟨target, rfl⟩
  · intro key other target target' hreach hother htarget htarget' hsame
    have hpass := hkey key (mem_of_linkedOn h hroot hreach)
    simp only [htarget, Bool.and_eq_true, List.all_eq_true] at hpass
    have hpair := hpass.2 other (mem_of_linkedOn h hroot hother)
    simp only [htarget', hsame, bne_self_eq_false, Bool.false_or, beq_iff_eq] at hpair
    exact hpair

/-- The sections of keys that pass the check are all that is reached from any of them. -/
theorem Registry.reachesWithin_of_linkedOn {r : Registry ρ} {keys : List Text} {root : Text}
    (h : r.linkedOn keys = true) (hroot : root ∈ keys) :
    r.ReachesWithin root (keys.filterMap r.sectionOf?) := by
  intro key id hreach hid
  exact List.mem_filterMap.mpr ⟨key, mem_of_linkedOn h hroot hreach, hid⟩

/-- Whether a result is a failure for a cycle. -/
def isCyclic {α : Type} : Except Failure α → Bool
  | .error (.effect (.cyclicInclude _)) => true
  | _ => false

/-- An outcome that passes the test is a failure for a cycle. -/
theorem exists_of_isCyclic {α : Type} (outcome : Except Failure α × Memory)
    (h : isCyclic outcome.1 = true) :
    ∃ keys m', outcome = (.error (.effect (.cyclicInclude keys)), m') := by
  obtain ⟨result, m'⟩ := outcome
  unfold isCyclic at h
  split at h
  · rename_i keys hresult
    exact ⟨keys, m', by rw [show result = _ from hresult]⟩
  · contradiction

/-! ## Exactness -/

/-- Suppose that all keys that are reached from a root stand for sections, that keys for one section
include the same sections, and that the cache holds nothing but what is read of the sources.  If the
sections that are reached are among finitely many, then an expansion that may go deeper than their
number fails for a cycle if and only if there is one, and succeeds otherwise, whatever kind of
reader the registry has.  A reader whose sources can be listed reaches finitely many sections, and
the expansion goes deep enough by itself. -/
theorem expand_cyclicInclude_iff :
    (∀ {ρ : Type} [SourceReader ρ] {r : Registry ρ} {root : Text} {known : SourceFile → Prop}
      {m : Memory} {sections : List SectionId} {depth : Nat},
      r.Consistent known → m.cache.Mirrors r known → r.Linked root →
      r.ReachesWithin root sections → sections.length < depth →
        TellsCycle (expandWithin r depth root m) (r.HasCycle root)) ∧
    ∀ {r : Registry} {root : Text} {known : SourceFile → Prop} {m : Memory},
      r.Consistent known → m.cache.Mirrors r known → r.Linked root →
        TellsCycle (expand r root m) (r.HasCycle root) := by
  refine ⟨?_, ?_⟩
  · intro ρ _ r root known m sections depth hr hm hlinked hreach hdepth
    exact tellsCycle_of_ne_nesting hr hm hlinked (hreach.ne_nesting hr hm hdepth)
  · intro r root known m hr hm hlinked
    exact tellsCycle_expand hr hm hlinked

/-- A scene in which two sections include each other, with two keys for one of them. -/
def loopShelf : Shelf :=
  [("fx/scene.glsl".toList, .text ("-- main\n#include \"scene.loop\"\n" ++
    "-- loop\n#include \"scene.base\"\n-- base\n#include \"scene.loop.fast\"\n").toList)]

/-- The registry of that scene. -/
def loopScene : Registry := ⟨[], "fx".toList, "glsl".toList, .table loopShelf, "/work".toList⟩

/-- A source that includes its own section, from a function that answers the same for every
source. -/
def eddyScene : Registry (SourceFile → ReadOutcome) := .echo "-- S\n#include e.S\n".toList

/-- The cycle of each scene is found, by an expansion that chooses its own depth and by one that may
go two sections deep. -/
theorem expand_loopScene_cyclic :
    loopScene.Consistent (loopShelf.Holds "/work".toList) ∧
      Cache.empty.Mirrors loopScene (loopShelf.Holds "/work".toList) ∧
      loopScene.Linked "scene.main".toList ∧
      (∃ keys m', expand loopScene "scene.main".toList ⟨.empty, [], []⟩ =
        (.error (.effect (.cyclicInclude keys)), m')) ∧
      loopScene.HasCycle "scene.main".toList ∧
      eddyScene.ReachesWithin "e.S".toList [("/work/fx/e.glsl".toList, "S".toList)] ∧
      (∃ keys m', expandWithin eddyScene 2 "e.S".toList ⟨.empty, [], []⟩ =
        (.error (.effect (.cyclicInclude keys)), m')) ∧
      eddyScene.HasCycle "e.S".toList := by
  have hr : loopScene.Consistent (loopShelf.Holds "/work".toList) :=
    consistent_of_table rfl (by simp [loopScene]) (by decide +kernel)
  have hm : Cache.empty.Mirrors loopScene (loopShelf.Holds "/work".toList) :=
    Cache.mirrors_of_entries_eq_nil rfl _ _
  have hlinked : loopScene.Linked "scene.main".toList :=
    Registry.linked_of_linkedOn ["scene.main".toList, "scene.loop".toList, "scene.base".toList,
      "scene.loop.fast".toList] (by decide +kernel) (by simp)
  have hfails : ∃ keys m', expand loopScene "scene.main".toList ⟨.empty, [], []⟩ =
      (.error (.effect (.cyclicInclude keys)), m') :=
    exists_of_isCyclic _ (by decide +kernel)
  have hcheck : eddyScene.linkedOn ["e.S".toList] = true := by decide +kernel
  have hreach : eddyScene.ReachesWithin "e.S".toList [("/work/fx/e.glsl".toList, "S".toList)] := by
    have hsections : ["e.S".toList].filterMap eddyScene.sectionOf? =
        [("/work/fx/e.glsl".toList, "S".toList)] := by decide +kernel
    rw [← hsections]
    exact Registry.reachesWithin_of_linkedOn hcheck (by simp)
  have heddy : ∃ keys m', expandWithin eddyScene 2 "e.S".toList ⟨.empty, [], []⟩ =
      (.error (.effect (.cyclicInclude keys)), m') :=
    exists_of_isCyclic _ (by decide +kernel)
  have htells : TellsCycle (expandWithin eddyScene 2 "e.S".toList ⟨.empty, [], []⟩)
      (eddyScene.HasCycle "e.S".toList) :=
    expand_cyclicInclude_iff.1 (Registry.consistent_echo _)
      (Cache.mirrors_of_entries_eq_nil rfl _ _)
      (Registry.linked_of_linkedOn ["e.S".toList] hcheck (by simp)) hreach (by simp)
  exact ⟨hr, hm, hlinked, hfails, (expand_cyclicInclude_iff.2 hr hm hlinked).1.mp hfails, hreach,
    heddy, htells.1.mp heddy⟩

/-- A pool that is still. -/
def stillShelf : Shelf := [("fx/pool.glsl".toList, .text "-- S\nx\n".toList)]

/-- A pool that includes itself. -/
def whirlShelf : Shelf := [("fx/pool.glsl".toList, .text "-- S\n#include pool.S\n".toList)]

/-- A registry for a pool. -/
def poolScene (shelf : Shelf) : Registry :=
  ⟨[], "fx".toList, "glsl".toList, .table shelf, "/work".toList⟩

/-- The key of the pool's section. -/
def poolRoot : Text := "pool.S".toList

/-- A session with an expander for the still pool. -/
def poolSession : Session :=
  { settings := ⟨none, none, none, [], []⟩
    options := ⟨[], .text "fx".toList, .text "glsl".toList, .ok (.table stillShelf), false,
      "/work".toList⟩
    store := .table stillShelf, live := true
    studio := ⟨poolScene stillShelf, .empty, 0, true⟩, studios := 1
    reads := [], journal := [], expander := some ⟨false, none⟩, last := none, shown := [] }

/-- None of the conditions can be left out.  In the spiral all keys that are reached stand for
sections and there is no cycle, but the expansion does not succeed, however deep it may go.  With a
cache that has the pool as another reader gave it, the expansion succeeds although the pool includes
itself.  And an expander that has served a request refuses the next one, without any cycle. -/
theorem cyclicInclude_inexact :
    (spiralScene.Consistent (fun _ => True) ∧ spiralScene.Linked spiralRoot ∧
      ¬ spiralScene.HasCycle spiralRoot ∧
      ∀ depth, ∃ m', expandWithin spiralScene depth spiralRoot ⟨.empty, [], []⟩ =
        (.error .nesting, m')) ∧
    ((poolScene whirlShelf).Consistent (whirlShelf.Holds "/work".toList) ∧
      (poolScene whirlShelf).Linked poolRoot ∧ (poolScene whirlShelf).HasCycle poolRoot ∧
      ∃ expanded m', expand (poolScene whirlShelf) poolRoot
        (expand (poolScene stillShelf) poolRoot ⟨.empty, [], []⟩).2 = (.ok expanded, m')) ∧
    ((poolScene stillShelf).Consistent (stillShelf.Holds "/work".toList) ∧
      (poolScene stillShelf).Linked poolRoot ∧ ¬ (poolScene stillShelf).HasCycle poolRoot ∧
      ((poolSession.expand (.text poolRoot)).2.expand (.text poolRoot)).1 =
        .error (.misuse .expanderUsedTwice)) := by
  have hspiral : spiralScene.Consistent fun _ => True := Registry.consistent_echo _
  have hstill : (poolScene stillShelf).Consistent (stillShelf.Holds "/work".toList) :=
    consistent_of_table rfl (by simp [poolScene]) (by decide +kernel)
  have hwhirl : (poolScene whirlShelf).Consistent (whirlShelf.Holds "/work".toList) :=
    consistent_of_table rfl (by simp [poolScene]) (by decide +kernel)
  have hstill' : (poolScene stillShelf).Linked poolRoot :=
    Registry.linked_of_linkedOn [poolRoot] (by decide +kernel) (by simp)
  have hwhirl' : (poolScene whirlShelf).Linked poolRoot :=
    Registry.linked_of_linkedOn [poolRoot] (by decide +kernel) (by simp)
  -- with a cache that holds nothing an expansion tells whether there is a cycle
  have hfresh : ∀ {shelf : Shelf} {known : SourceFile → Prop},
      (poolScene shelf).Consistent known → (poolScene shelf).Linked poolRoot →
        TellsCycle (expand (poolScene shelf) poolRoot ⟨.empty, [], []⟩)
          ((poolScene shelf).HasCycle poolRoot) := fun hr hlinked =>
    tellsCycle_expand hr (Cache.mirrors_of_entries_eq_nil rfl _ _) hlinked
  have hcycle : (poolScene whirlShelf).HasCycle poolRoot :=
    (hfresh hwhirl hwhirl').1.mp (exists_of_isCyclic _ (by decide +kernel))
  have hnone : ¬ (poolScene stillShelf).HasCycle poolRoot := by
    intro hcycle
    obtain ⟨keys, m', hfails⟩ := (hfresh hstill hstill').1.mpr hcycle
    have hcyclic : isCyclic (expand (poolScene stillShelf) poolRoot ⟨.empty, [], []⟩).1 = true := by
      rw [hfails]
      rfl
    exact absurd hcyclic (by decide +kernel)
  obtain ⟨expanded, m', hstale, -⟩ := exists_of_any
    (expand (poolScene whirlShelf) poolRoot
      (expand (poolScene stillShelf) poolRoot ⟨.empty, [], []⟩).2)
    (fun _ => true) (by decide +kernel)
  have hendless := nesting_of_not_reachesWithin (m := ⟨.empty, [], []⟩) hspiral
    (Cache.mirrors_of_entries_eq_nil rfl _ _) spiralScene_linked spiralScene_acyclic
    spiralScene_unbounded
  exact ⟨⟨hspiral, spiralScene_linked, spiralScene_acyclic, hendless⟩,
    ⟨hwhirl, hwhirl', hcycle, expanded, m', hstale⟩, hstill, hstill', hnone, rfl⟩

end ShaderCompose
