import ShaderCompose.Proofs.Expansion.Depth
import ShaderCompose.Proofs.Mirroring

/-!
# A search through include steps

An expansion is a depth first search through the sections that include lines lead to.  A section
that was begun and is not being expanded any more is finished, and what it includes is finished as
well, so no cycle goes through it.  A section that is being expanded leads to the next request, so
a request for it closes a cycle.
-/

set_option autoImplicit false

namespace ShaderCompose

variable {ρ : Type} [SourceReader ρ]

open Relation (ReflTransGen TransGen)

/-! ## Sections and include steps -/

namespace Registry

variable (r : Registry ρ)

/-- The section that a key stands for. -/
def sectionOf? (key : Text) : Option SectionId :=
  (r.target key).toOption.map fun target => target.found.id

/-- The section that the first key stands for includes the second key. -/
def KeyStep (key inner : Text) : Prop :=
  ∃ target, r.target key = .ok target ∧ inner ∈ target.includeKeys

/-- The keys that include lines lead to from a root key. -/
def Reaches (root key : Text) : Prop := ReflTransGen r.KeyStep root key

/-- The first section includes the second one, as requested by a key that is reached from the
root. -/
def SectionStep (root : Text) (a b : SectionId) : Prop :=
  ∃ key target inner, r.Reaches root key ∧ r.target key = .ok target ∧ target.found.id = a ∧
    inner ∈ target.includeKeys ∧ r.sectionOf? inner = some b

/-- A section that is reached from the root section reaches itself by one include step or more. -/
def HasCycle (root : Text) : Prop :=
  ∃ a b, r.sectionOf? root = some a ∧ ReflTransGen (r.SectionStep root) a b ∧
    TransGen (r.SectionStep root) b b

/-- The sections that keys reached from the root stand for are among the listed ones. -/
def ReachesWithin (root : Text) (sections : List SectionId) : Prop :=
  ∀ key id, r.Reaches root key → r.sectionOf? key = some id → id ∈ sections

/-- Every key that is reached from the root stands for a section, and keys for one section have
include lines for the same sections. -/
structure Linked (root : Text) : Prop where
  resolves {key : Text} : r.Reaches root key → ∃ target, r.target key = .ok target
  agrees {key other : Text} {target target' : Target} :
    r.Reaches root key → r.Reaches root other → r.target key = .ok target →
    r.target other = .ok target' → target.found.id = target'.found.id →
      target.includeKeys.map r.sectionOf? = target'.includeKeys.map r.sectionOf?

end Registry

section

variable {r : Registry ρ} {root : Text}

/-- The section of a key is that of the target it stands for. -/
theorem sectionOf?_of_target {key : Text} {target : Target} (h : r.target key = .ok target) :
    r.sectionOf? key = some target.found.id := by
  unfold Registry.sectionOf?
  rw [h]
  rfl

/-- The steps from a section are those of any key for it. -/
theorem Registry.Linked.exists_of_step (hlinked : r.Linked root) {key : Text} {target : Target}
    (hreach : r.Reaches root key) (htarget : r.target key = .ok target) {b : SectionId}
    (hstep : r.SectionStep root target.found.id b) :
    ∃ inner ∈ target.includeKeys, r.sectionOf? inner = some b := by
  obtain ⟨other, target', inner, hother, htarget', hsame, hinner, hb⟩ := hstep
  have hagree := hlinked.agrees hother hreach htarget' htarget hsame
  have hmem : some b ∈ target'.includeKeys.map r.sectionOf? :=
    List.mem_map.mpr ⟨inner, hinner, hb⟩
  rw [hagree] at hmem
  obtain ⟨inner', hinner', hb'⟩ := List.mem_map.mp hmem
  exact ⟨inner', hinner', hb'⟩

/-- The section of a key that is reached is reached from the root section. -/
theorem Registry.Reaches.reflTransGen {key : Text} (hreach : r.Reaches root key)
    {a b : SectionId} (ha : r.sectionOf? root = some a) (hb : r.sectionOf? key = some b) :
    ReflTransGen (r.SectionStep root) a b := by
  induction hreach generalizing b with
  | refl =>
    obtain rfl : a = b := Option.some.inj (ha.symm.trans hb)
    exact .refl
  | @tail key inner hreach hkey ih =>
    obtain ⟨target, htarget, hinner⟩ := hkey
    have hbefore := ih (sectionOf?_of_target htarget)
    exact hbefore.tail ⟨key, target, inner, hreach, htarget, rfl, hinner, hb⟩

/-! ## Finished sections -/

/-- The sections that were begun and are not being expanded any more are finished: what they include
is finished, and no cycle goes through them. -/
structure Explored (r : Registry ρ) (root : Text) (current begun : List SectionId) : Prop where
  closed {a b : SectionId} : a ∈ begun → a ∉ current → r.SectionStep root a b →
    b ∈ begun ∧ b ∉ current
  acyclic {a : SectionId} : a ∈ begun → a ∉ current → ¬ TransGen (r.SectionStep root) a a

/-- Where nothing was begun, nothing needs to be finished. -/
theorem Explored.nil (current : List SectionId) : Explored r root current [] where
  closed h := by simp at h
  acyclic h := by simp at h

/-- Sections that a finished one reaches are finished. -/
theorem Explored.reached {current begun : List SectionId} (h : Explored r root current begun)
    {a b : SectionId} (ha : a ∈ begun) (hcurrent : a ∉ current)
    (hreach : ReflTransGen (r.SectionStep root) a b) : b ∈ begun ∧ b ∉ current := by
  induction hreach with
  | refl => exact ⟨ha, hcurrent⟩
  | tail _ hstep ih => exact h.closed ih.1 ih.2 hstep

/-- A new section is begun. -/
theorem Explored.begin {current begun : List SectionId} (h : Explored r root current begun)
    {id : SectionId} (hnew : id ∉ begun) : Explored r root (current ++ [id]) (begun ++ [id]) := by
  have hold : ∀ {a}, a ∈ begun ++ [id] → a ∉ current ++ [id] → a ∈ begun ∧ a ∉ current := by
    intro a ha hcurrent
    simp only [List.mem_append, List.mem_singleton, not_or] at ha hcurrent
    exact ⟨ha.resolve_right hcurrent.2, hcurrent.1⟩
  refine ⟨?_, ?_⟩
  · intro a b ha hcurrent hstep
    obtain ⟨ha, hcurrent⟩ := hold ha hcurrent
    obtain ⟨hb, hfree⟩ := h.closed ha hcurrent hstep
    refine ⟨List.mem_append_left _ hb, ?_⟩
    rw [List.mem_append, List.mem_singleton, not_or]
    exact ⟨hfree, fun heq => hnew (heq ▸ hb)⟩
  · intro a ha hcurrent
    obtain ⟨ha, hcurrent⟩ := hold ha hcurrent
    exact h.acyclic ha hcurrent

/-- A section is finished when all that it includes is. -/
theorem Explored.finish {current begun : List SectionId} {id : SectionId}
    (h : Explored r root (current ++ [id]) begun)
    (hsteps : ∀ b, r.SectionStep root id b → b ∈ begun ∧ b ∉ current ++ [id]) :
    Explored r root current begun := by
  have hfree : ∀ {a}, a ∉ current ++ [id] → a ∉ current := fun ha hmem =>
    ha (List.mem_append_left _ hmem)
  have hcases : ∀ {a}, a ∉ current → a = id ∨ a ∉ current ++ [id] := by
    intro a ha
    by_cases heq : a = id
    · exact Or.inl heq
    · exact Or.inr (by simp [ha, heq])
  refine ⟨?_, ?_⟩
  · intro a b ha hcurrent hstep
    rcases hcases hcurrent with rfl | hcurrent
    · obtain ⟨hb, hb'⟩ := hsteps b hstep
      exact ⟨hb, hfree hb'⟩
    · obtain ⟨hb, hb'⟩ := h.closed ha hcurrent hstep
      exact ⟨hb, hfree hb'⟩
  · intro a ha hcurrent
    rcases hcases hcurrent with rfl | hcurrent
    · -- what the section includes is finished, and does not lead back to it
      intro hcycle
      obtain ⟨b, hstep, hback⟩ := TransGen.head'_iff.mp hcycle
      obtain ⟨hb, hb'⟩ := hsteps b hstep
      exact (h.reached hb hb' hback).2 (by simp)
    · exact h.acyclic ha hcurrent

/-! ## The search -/

/-- The sections that are being expanded while a job is done. -/
def Job.current : Job → List SectionId
  | .request chain _ => chain.map Prod.fst
  | .copy chain _ _ _ _ => chain.map Prod.fst

/-- A job that comes up in the search from a root: the key is reached from there, and the sections
that are being expanded lead to the one that is requested or copied. -/
def Job.Pending (r : Registry ρ) (root : Text) : Job → Prop
  | .request chain key =>
    r.Reaches root key ∧ ∀ a ∈ chain.map Prod.fst, ∀ b, r.sectionOf? key = some b →
      TransGen (r.SectionStep root) a b
  | .copy chain dir _ lines _ =>
    ∃ key target, r.Reaches root key ∧ r.target key = .ok target ∧
      dir = Path.directory target.name ∧ (∀ entry ∈ lines, entry ∈ target.found.lines) ∧
      ∀ a ∈ chain.map Prod.fst, ReflTransGen (r.SectionStep root) a target.found.id

/-- What is finished when a job is done: the section that was requested, or all that the copied
lines include. -/
def Job.Finished (r : Registry ρ) (begun : List SectionId) : Job → Prop
  | .request chain key =>
    ∀ b, r.sectionOf? key = some b → b ∈ begun ∧ b ∉ chain.map Prod.fst
  | .copy chain dir _ lines _ =>
    ∀ number line key b, (number, line) ∈ lines → Include.key? line = some key →
      r.sectionOf? (Include.relativeTo dir key) = some b → b ∈ begun ∧ b ∉ chain.map Prod.fst

/-- How a job of the search ends: it is finished, or there is a cycle and it fails for that. -/
def Job.Settled (r : Registry ρ) (root : Text) (begun : List SectionId) (job : Job) :
    Except Failure (List CodeLine) → Prop
  | .ok _ => Explored r root job.current begun ∧ job.Finished r begun
  | .error e => (∃ keys, e = .effect (.cyclicInclude keys)) ∧ r.HasCycle root

/-- A request that is made by a copied include line. -/
theorem Job.Pending.request {chain : Chain} {dir line key : Text} {index number : Nat}
    {rest : List (Nat × Text)} {pending : Bool}
    (h : (Job.copy chain dir index ((number, line) :: rest) pending).Pending r root)
    (hkey : Include.key? line = some key) :
    (Job.request chain (Include.relativeTo dir key)).Pending r root := by
  obtain ⟨outer, target, hreach, htarget, rfl, hlines, hchain⟩ := h
  have hinner := Target.mem_includeKeys (hlines _ List.mem_cons_self) hkey
  refine ⟨hreach.tail ⟨target, htarget, hinner⟩, ?_⟩
  intro a ha b hb
  exact .tail' (hchain a ha) ⟨outer, target, _, hreach, htarget, rfl, hinner, hb⟩

/-- The lines behind a copied one. -/
theorem Job.Pending.rest {chain : Chain} {dir : Text} {index : Nat} {entry : Nat × Text}
    {rest : List (Nat × Text)} {pending : Bool}
    (h : (Job.copy chain dir index (entry :: rest) pending).Pending r root) (later : Bool) :
    (Job.copy chain dir index rest later).Pending r root := by
  obtain ⟨outer, target, hreach, htarget, hdir, hlines, hchain⟩ := h
  exact ⟨outer, target, hreach, htarget, hdir,
    fun entry hentry => hlines entry (List.mem_cons_of_mem _ hentry), hchain⟩

/-- The lines of a section that is begun. -/
theorem Job.Pending.copy {chain : Chain} {key : Text} {target : Target}
    (h : (Job.request chain key).Pending r root) (htarget : r.target key = .ok target)
    (index : Nat) :
    (Job.copy (chain ++ [(target.found.id, key)]) (Path.directory target.name) index
      target.found.lines true).Pending r root := by
  obtain ⟨hreach, hchain⟩ := h
  refine ⟨key, target, hreach, htarget, rfl, fun _ hentry => hentry, ?_⟩
  intro a ha
  rw [List.map_append, List.mem_append] at ha
  rcases ha with ha | ha
  · exact (hchain a ha _ (sectionOf?_of_target htarget)).to_reflTransGen
  · obtain rfl : a = target.found.id := by simpa using ha
    exact .refl

/-- Lines are settled when those behind the first one are, and what the first one includes is
finished. -/
theorem Job.Settled.line {chain : Chain} {dir line : Text} {index number : Nat}
    {rest : List (Nat × Text)} {pending later : Bool} {begun : List SectionId}
    {result : Except Failure (List CodeLine)}
    (h : (Job.copy chain dir index rest later).Settled r root begun result)
    (hline : ∀ key, Include.key? line = some key →
      (Job.request chain (Include.relativeTo dir key)).Finished r begun)
    (f : List CodeLine → List CodeLine) :
    (Job.copy chain dir index ((number, line) :: rest) pending).Settled r root begun
      (result.map f) := by
  cases result with
  | error e => exact h
  | ok tail =>
    refine ⟨h.1, ?_⟩
    intro number' line' key b hmem hkey hb
    rcases List.mem_cons.mp hmem with heq | hmem
    · obtain ⟨-, rfl⟩ := Prod.mk.inj heq
      exact hline key hkey b hb
    · exact h.2 number' line' key b hmem hkey hb

/-- A request is settled when the lines of the section are. -/
theorem Job.Settled.request {chain : Chain} {key : Text} {target : Target} {index : Nat}
    {begun : List SectionId} {result : Except Failure (List CodeLine)}
    (h : (Job.copy (chain ++ [(target.found.id, key)]) (Path.directory target.name) index
      target.found.lines true).Settled r root begun result)
    (hlinked : r.Linked root) (hpending : (Job.request chain key).Pending r root)
    (htarget : r.target key = .ok target.bare) (hbegun : target.found.id ∈ begun)
    (hfresh : target.found.id ∉ chain.map Prod.fst) :
    (Job.request chain key).Settled r root begun result := by
  cases result with
  | error e => exact h
  | ok code =>
    obtain ⟨hexplored, hfinished⟩ := h
    have hmap : (chain ++ [(target.found.id, key)]).map Prod.fst =
        chain.map Prod.fst ++ [target.found.id] := by
      simp
    rw [Job.current, hmap] at hexplored
    have hsteps : ∀ b, r.SectionStep root target.found.id b →
        b ∈ begun ∧ b ∉ chain.map Prod.fst ++ [target.found.id] := by
      intro b hstep
      obtain ⟨inner, hmem, hb⟩ := hlinked.exists_of_step hpending.1 htarget hstep
      obtain ⟨number, line, named, hline, hkey, rfl⟩ := Target.exists_of_mem_includeKeys hmem
      rw [← hmap]
      exact hfinished number line named b hline hkey hb
    refine ⟨hexplored.finish hsteps, ?_⟩
    intro b hb
    obtain rfl := Option.some.inj ((sectionOf?_of_target htarget).symm.trans hb)
    exact ⟨hbegun, hfresh⟩

variable {known : SourceFile → Prop}

/-- Every job of the search is settled. -/
theorem Runs.settled {job : Job} {s s' : Expansion} {result : Except Failure (List CodeLine)}
    (h : Runs r job s result s') (hr : r.Consistent known) (hlinked : r.Linked root)
    (hm : s.memory.cache.Mirrors r known) (hpending : job.Pending r root)
    (hexplored : Explored r root job.current s.expanded) :
    job.Settled r root s'.expanded result := by
  induction h with
  | unlocated hlocate =>
    -- every key that is reached stands for a section
    obtain ⟨target, htarget⟩ := hlinked.resolves hpending.1
    rw [target_of_locate_eq_error hr hm hlocate] at htarget
    contradiction
  | @cyclic chain key s target m hlocate hchain =>
    have htarget := target_of_locate_eq_ok hr hm hlocate
    have hsection := sectionOf?_of_target htarget
    obtain ⟨first, hfirst⟩ := hlinked.resolves .refl
    have hroot := sectionOf?_of_target hfirst
    -- the sections that are being expanded lead to the requested one, which is one of them
    refine ⟨⟨_, rfl⟩, first.found.id, target.found.id, hroot, ?_, ?_⟩
    · exact hpending.1.reflTransGen hroot hsection
    · exact hpending.2 _ hchain _ hsection
  | repeated hlocate hchain hbegun =>
    have hsection := sectionOf?_of_target (target_of_locate_eq_ok hr hm hlocate)
    refine ⟨hexplored, ?_⟩
    intro b hb
    obtain rfl := Option.some.inj (hsection.symm.trans hb)
    exact ⟨hbegun, hchain⟩
  | @unfolded chain key s s' target m result hlocate hchain hnew hcopy ih =>
    have htarget := target_of_locate_eq_ok hr hm hlocate
    have hmirrors : ((s.withMemory m).begin target).2.memory.cache.Mirrors r known := by
      rw [Expansion.memory_begin]
      exact hm.locate hr hlocate
    have hbegin : Explored r root
        (Job.copy (chain ++ [(target.found.id, key)]) (Path.directory target.name)
          ((s.withMemory m).begin target).1 target.found.lines true).current
        ((s.withMemory m).begin target).2.expanded := by
      rw [Expansion.expanded_begin, Job.current, List.map_append]
      exact hexplored.begin hnew
    have hinner := ih hmirrors (hpending.copy htarget _) hbegin
    refine hinner.request hlinked hpending htarget ?_ hchain
    refine hcopy.expanded_grow.subset ?_
    rw [Expansion.expanded_begin]
    simp
  | ended => exact ⟨hexplored, by simp [Job.Finished]⟩
  | refused hkey hrequest ih => exact ih hm (hpending.request hkey) hexplored
  | @included chain dir line key index number rest pending s t s' inner result hkey hrequest hrest
      ihrequest ihrest =>
    obtain ⟨hexplored', hfinished⟩ := ihrequest hm (hpending.request hkey) hexplored
    have htail := ihrest (hrequest.loads.mirrors hr hm) (hpending.rest true) hexplored'
    refine htail.line ?_ _
    intro key' hkey' b hb
    obtain rfl := Option.some.inj (hkey.symm.trans hkey')
    obtain ⟨hbegun, hfree⟩ := hfinished b hb
    exact ⟨hrest.expanded_grow.subset hbegun, hfree⟩
  | @copied chain dir line index number rest pending s s' result hkey hrest ih =>
    have htail := ih hm (hpending.rest _) hexplored
    exact htail.line (fun key' hkey' => absurd hkey' (by simp [hkey])) _

/-- If the request for a root succeeds, then there is no cycle and all sections that are reached
have been begun. -/
theorem Runs.reachesWithin {m : Memory} {s : Expansion} {code : List CodeLine}
    (h : Runs r (.request [] root) (.start m) (.ok code) s) (hr : r.Consistent known)
    (hlinked : r.Linked root) (hm : m.cache.Mirrors r known) :
    ¬ r.HasCycle root ∧ r.ReachesWithin root s.expanded := by
  have hpending : (Job.request [] root).Pending r root := ⟨.refl, by simp⟩
  obtain ⟨hexplored, hfinished⟩ := h.settled hr hlinked hm hpending (Explored.nil _)
  refine ⟨?_, ?_⟩
  · rintro ⟨a, b, ha, hreach, hcycle⟩
    obtain ⟨hbegun, hfree⟩ := hfinished a ha
    obtain ⟨hb, hb'⟩ := hexplored.reached hbegun hfree hreach
    exact hexplored.acyclic hb hb' hcycle
  · intro key id hreach hid
    obtain ⟨first, hfirst⟩ := hlinked.resolves .refl
    have hroot := sectionOf?_of_target hfirst
    obtain ⟨hbegun, hfree⟩ := hfinished _ hroot
    exact (hexplored.reached hbegun hfree (hreach.reflTransGen hroot hid)).1

/-- If the request for a root fails, then for a cycle, and there is one. -/
theorem Runs.hasCycle {m : Memory} {s : Expansion} {e : Failure}
    (h : Runs r (.request [] root) (.start m) (.error e) s) (hr : r.Consistent known)
    (hlinked : r.Linked root) (hm : m.cache.Mirrors r known) :
    (∃ keys, e = .effect (.cyclicInclude keys)) ∧ r.HasCycle root :=
  h.settled hr hlinked hm ⟨.refl, by simp⟩ (Explored.nil _)

end

end ShaderCompose
