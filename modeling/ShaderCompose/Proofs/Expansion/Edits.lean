import Mathlib.Data.List.Forall2
import ShaderCompose.Proofs.Expansion.Correspondence
import ShaderCompose.Proofs.Expansion.Refusals

/-!
# Lines that a failing expansion does not come to

An expansion that fails stops at an include line of each section that is being expanded.  Lines
behind these are not looked at, nor are the lines of sections that were not begun, so with other
lines in their place the expansion fails in the same way.  The two expansions are compared step by
step: up to the failing request they begin the same sections, and those that are finished by then
have the same lines.
-/

set_option autoImplicit false

namespace ShaderCompose

/-- The sections that are being expanded when a request is made, each with the number of the include
line at hand. -/
def Call.stops (call : Call) : List (SectionId × Nat) := (call.chain.map Prod.fst).zip call.places

/-- A section that has been expanded to its end when a request is made. -/
def Call.Finished (call : Call) (id : SectionId) : Prop :=
  id ∈ call.before.expanded ∧ id ∉ call.chain.map Prod.fst

/-! ## Edited sources -/

/-- A section, and what it may be changed to without a difference up to a request: if it is finished
the lines stay, and if it is being expanded those up to the include line at hand. -/
structure Section.Edited (last : Call) (found other : Section) : Prop where
  id : other.id = found.id
  whole : last.Finished found.id → other.lines.map Prod.snd = found.lines.map Prod.snd
  upTo {number : Nat} : (found.id, number) ∈ last.stops →
    (found.lines.takeWhile fun entry => entry.1 ≤ number).map Prod.snd <+:
      other.lines.map Prod.snd

/-- An effect with edited sections, under the same keys and in the same order. -/
structure Effect.Edited (last : Call) (effect other : Effect) : Prop where
  identity : other.identity = effect.identity
  sections : List.Forall₂ (Section.Edited last) effect.sections other.sections

/-- Another reader has the same sources as that of a registry, and where names resolve to they are
edited. -/
structure Registry.Edited (r : Registry) (last : Call) (other : Reader) : Prop where
  has (file : SourceFile) : other.has file = r.reader.has file
  read {name : Text} {file : SourceFile} : r.resolve name = .ok file →
    Parallel (fun text text' => (Effect.parse text file.identity (some file)).Edited last
      (Effect.parse text' file.identity (some file)))
      (r.read file) (({ r with reader := other } : Registry).read file)

/-- Caches that hold, under the same identities, effects with the same lines up to where the
expansion stops. -/
def Cache.Edited (last : Call) (cache other : Cache) : Prop :=
  ∀ identity, Option.Rel (fun loaded loaded' => loaded.effect.Edited last loaded'.effect)
    (cache.get? identity) (other.get? identity)

section

variable {last : Call}

/-- Every section agrees with itself up to any request. -/
theorem Section.Edited.refl (found : Section) : Section.Edited last found found where
  id := rfl
  whole _ := rfl
  upTo _ := (List.takeWhile_prefix _).map Prod.snd

/-- Every effect agrees with itself up to any request. -/
theorem Effect.Edited.refl (effect : Effect) : Effect.Edited last effect effect :=
  ⟨rfl, List.forall₂_same.mpr fun found _ => .refl found⟩

/-- Every cache agrees with itself up to any request. -/
theorem Cache.Edited.refl (cache : Cache) : Cache.Edited last cache cache :=
  Cache.Matches.refl Effect.Edited.refl cache

/-! ## Finding targets -/

/-- The best section for a key is the same in an edited effect. -/
theorem Effect.SelectAlike.edited (last : Call) :
    Effect.SelectAlike (Effect.Edited last) (Section.Edited last) where
  identity h := h.identity
  bestSection h := Effect.bestSection_rel (fun hedited => congrArg Prod.snd hedited.id) h.sections

/-- Targets of a key with edited sources. -/
structure Target.Edited (last : Call) (target other : Target) : Prop where
  name : other.name = target.name
  found : target.found.Edited last other.found

variable {r : Registry} {other : Reader}

/-- With the edited sources a key is located alike: both fail in the same way, or find targets that
agree up to the request. -/
theorem Registry.Edited.locate (h : r.Edited last other) {m n : Memory}
    (hcache : m.cache.Edited last n.cache) (key : Text) :
    PairedAnswers Eq (Target.Edited last) (Cache.Edited last) (locate r key m)
      (locate { r with reader := other } key n) := by
  have hr : r.Corresponds other (Effect.Edited last) := ⟨h.has, h.read⟩
  exact (hr.locate (.edited last) hcache key).mono fun _ _ hsame => ⟨hsame.name, hsame.found⟩

/-- A key that is located is located with the edited sources too, and the targets agree up to the
request. -/
theorem Registry.Edited.locate_ok (h : r.Edited last other) {m n m' : Memory}
    (hcache : m.cache.Edited last n.cache) {key : Text} {target : Target}
    (hlocate : ShaderCompose.locate r key m = (.ok target, m')) :
    ∃ target' n', ShaderCompose.locate { r with reader := other } key n = (.ok target', n') ∧
      target.Edited last target' ∧ m'.cache.Edited last n'.cache := by
  have hanswers := h.locate hcache key
  rw [hlocate] at hanswers
  exact hanswers.of_ok

/-- A key that cannot be located fails in the same way with the edited sources. -/
theorem Registry.Edited.locate_error (h : r.Edited last other) {m n m' : Memory}
    (hcache : m.cache.Edited last n.cache) {key : Text} {e : Failure}
    (hlocate : ShaderCompose.locate r key m = (.error e, m')) :
    ∃ n', ShaderCompose.locate { r with reader := other } key n = (.error e, n') := by
  have hanswers := h.locate hcache key
  rw [hlocate] at hanswers
  obtain ⟨_, n', hother, rfl, -⟩ := hanswers.of_error
  exact ⟨n', hother⟩

/-! ## Sections that are finished -/

/-- States of two expansions that have begun the same sections. -/
structure Expansion.Edited (last : Call) (s u : Expansion) : Prop where
  expanded : u.expanded = s.expanded
  cache : s.memory.cache.Edited last u.memory.cache

/-- Beginning sections that agree keeps the states in agreement. -/
theorem Expansion.Edited.begin {s u : Expansion} (h : s.Edited last u) {m n : Memory}
    (hcache : m.cache.Edited last n.cache) {target target' : Target}
    (htarget : target.Edited last target') :
    ((s.withMemory m).begin target).2.Edited last ((u.withMemory n).begin target').2 := by
  refine ⟨?_, ?_⟩
  · rw [Expansion.expanded_begin, Expansion.expanded_begin, htarget.found.id]
    simp [h.expanded]
  · rw [Expansion.memory_begin, Expansion.memory_begin]
    exact hcache

/-- Jobs with the same lines, whatever the numbers of the lines and of the file. -/
inductive Job.SameLines : Job → Job → Prop
  | request {chain : Chain} {key : Text} : SameLines (.request chain key) (.request chain key)
  | copy {chain : Chain} {dir : Text} {index index' : Nat} {lines lines' : List (Nat × Text)}
      {pending pending' : Bool} :
      lines'.map Prod.snd = lines.map Prod.snd →
        SameLines (.copy chain dir index lines pending) (.copy chain dir index' lines' pending')

/-- A job that succeeds and begins only sections that are finished by the request succeeds with the
edited sources. -/
theorem Runs.edited (hother : r.Edited last other) {job : Job} {s s' : Expansion}
    {code : List CodeLine} (h : Runs r job s (.ok code) s')
    (hfresh : ∀ id ∈ s'.expanded, id ∉ s.expanded → last.Finished id) {job' : Job}
    (hjob : job.SameLines job') {u : Expansion} (hs : s.Edited last u) :
    ∃ code' u', Runs { r with reader := other } job' u (.ok code') u' ∧ s'.Edited last u' := by
  -- whatever is begun on the way is finished by the request, and so it has the lines that it had
  induction h using Runs.ok_induction generalizing job' u with
  | @repeated chain key s target m hlocate hchain hbegun =>
    cases hjob
    obtain ⟨target', n, hlocate', htarget, hcache⟩ := hother.locate_ok hs.cache hlocate
    rw [← htarget.found.id] at hchain hbegun
    rw [← hs.expanded] at hbegun
    exact ⟨[], _, .repeated hlocate' hchain hbegun, hs.expanded, hcache⟩
  | @unfolded chain key s s' target m code hlocate hchain hnew hcopy ih =>
    cases hjob
    obtain ⟨target', n, hlocate', htarget, hcache⟩ := hother.locate_ok hs.cache hlocate
    have hgrow := hcopy.expanded_grow
    rw [Expansion.expanded_begin] at hgrow
    have hwhole := htarget.found.whole (hfresh _ (hgrow.subset (by simp)) hnew)
    have hfreshInner : ∀ id ∈ s'.expanded, id ∉ ((s.withMemory m).begin target).2.expanded →
        last.Finished id := by
      intro id hid hnot
      rw [Expansion.expanded_begin] at hnot
      exact hfresh id hid fun hmem => hnot (List.mem_append_left _ hmem)
    obtain ⟨code', u', hcopied, hstates⟩ := ih hfreshInner (.copy hwhole)
      (hs.begin hcache htarget)
    refine ⟨code', u', .unfolded hlocate' ?_ ?_ ?_, hstates⟩
    · rwa [htarget.found.id]
    · rwa [htarget.found.id, hs.expanded]
    · rw [htarget.found.id, htarget.name]
      exact hcopied
  | ended =>
    cases hjob with
    | copy hlines =>
      obtain rfl := List.map_eq_nil_iff.mp hlines
      exact ⟨[], u, .ended, hs⟩
  | @included chain dir line key index number rest pending s t s' inner tail hkey hrequest hrest
      ihrequest ihrest =>
    cases hjob with
    | copy hlines =>
      obtain ⟨⟨number', _⟩, rest', rfl, rfl, hrestLines⟩ := List.map_eq_cons_iff.mp hlines
      -- what either half begins is begun by the whole
      have hfirst : ∀ id ∈ t.expanded, id ∉ s.expanded → last.Finished id :=
        fun id hid => hfresh id (hrest.expanded_grow.subset hid)
      have hlater : ∀ id ∈ s'.expanded, id ∉ t.expanded → last.Finished id :=
        fun id hid hnot => hfresh id hid fun hmem => hnot (hrequest.expanded_grow.subset hmem)
      obtain ⟨inner', t', hrequested, hmiddle⟩ := ihrequest hfirst .request hs
      obtain ⟨tail', u', hcopied, hstates⟩ := ihrest hlater (.copy hrestLines) hmiddle
      exact ⟨_, u', .included hkey hrequested hcopied, hstates⟩
  | @copied chain dir line index number rest pending s s' tail hkey hrest ih =>
    cases hjob with
    | copy hlines =>
      obtain ⟨⟨number', _⟩, rest', rfl, rfl, hrestLines⟩ := List.map_eq_cons_iff.mp hlines
      obtain ⟨tail', u', hcopied, hstates⟩ := ih hfresh (.copy hrestLines) hs
      exact ⟨_, u', .copied hkey hcopied, hstates⟩

/-! ## Where an expansion stops -/

/-- A job is at the given places: one for each section that is being expanded, except for the one
whose lines the job copies. -/
def Job.At (places : List Nat) : Job → Prop
  | .request chain _ => places.length = chain.length
  | .copy chain _ _ _ _ => places.length + 1 = chain.length

/-- A request is made for an include line that a job has yet to come to, if it copies lines. -/
def Job.Awaits (places : List Nat) (last : Call) : Job → Prop
  | .request _ _ => True
  | .copy _ _ _ lines _ => ∃ number ∈ lines.map Prod.fst, last.places[places.length]? = some number

/-- The request at which a job stops that is started in a state. -/
structure Job.StopsAt (job : Job) (places : List Nat) (s : Expansion) (last : Call) : Prop where
  chain : job.chain <+: last.chain
  numbers : places <+: last.places
  fresh {id : SectionId} : id ∈ last.chain.map Prod.fst →
    id ∈ job.chain.map Prod.fst ∨ id ∉ s.expanded
  begun : s.expanded ⊆ last.before.expanded
  awaits : job.Awaits places last

variable {places : List Nat} {job : Job} {s s' : Expansion} {made : List Call}
variable {result : Except Failure (List CodeLine)} {e : Failure}

/-- A job that fails has a last request, and it is at this request that the job stops. -/
theorem Traced.stopsAt (h : Traced r places job s made result s') (hresult : result = .error e) :
    ∃ last, made.getLast? = some last ∧ job.StopsAt places s last := by
  -- sections join the chain when they are begun, so that they were not begun at any earlier state
  induction h with
  | unlocated | cyclic =>
    exact ⟨_, rfl, List.prefix_rfl, List.prefix_rfl, Or.inl, List.Subset.refl _, trivial⟩
  | repeated | ended => simp at hresult
  | @unfolded places chain key s s' target m made result _ _ hnew _ ih =>
    obtain ⟨last, hlast, hstops⟩ := ih hresult
    refine ⟨last, by simp [List.getLast?_cons, hlast], (List.prefix_append _ _).trans hstops.chain,
      hstops.numbers, ?_, ?_, trivial⟩
    · intro id hid
      rcases hstops.fresh hid with hchain | hnot
      · simp only [Job.chain, List.map_append, List.mem_append, List.map_cons, List.map_nil,
          List.mem_singleton] at hchain
        rcases hchain with hchain | rfl
        · exact Or.inl hchain
        · exact Or.inr hnew
      · rw [Expansion.expanded_begin] at hnot
        exact Or.inr fun hmem => hnot (List.mem_append_left _ hmem)
    · have hbegun := hstops.begun
      rw [Expansion.expanded_begin] at hbegun
      exact fun id hid => hbegun (List.mem_append_left _ hid)
  | @refused places chain dir line key index number rest pending s s' made e' _ _ ih =>
    obtain ⟨last, hlast, hstops⟩ := ih hresult
    refine ⟨last, hlast, hstops.chain, (List.prefix_append _ _).trans hstops.numbers, hstops.fresh,
      hstops.begun, number, by simp, ?_⟩
    simpa using List.prefix_iff_getElem?.mp hstops.numbers places.length (by simp)
  | @included places chain dir line key index number rest pending s t s' made more inner result
      _ hrequest _ _ ihrest =>
    obtain ⟨last, hlast, hstops⟩ := ihrest (map_eq_error hresult)
    obtain ⟨later, hlater, hplace⟩ := hstops.awaits
    have hgrow := hrequest.runs.expanded_grow.subset
    refine ⟨last, by simp [List.getLast?_append, hlast], hstops.chain, hstops.numbers, ?_,
      fun id hid => hstops.begun (hgrow hid), later, by simp [hlater], hplace⟩
    exact fun hid => (hstops.fresh hid).imp_right fun hnot hmem => hnot (hgrow hmem)
  | copied _ _ ih =>
    obtain ⟨last, hlast, hstops⟩ := ih (map_eq_error hresult)
    obtain ⟨later, hlater, hplace⟩ := hstops.awaits
    exact ⟨last, hlast, hstops.chain, hstops.numbers, hstops.fresh, hstops.begun, later,
      by simp [hlater], hplace⟩

/-! ## The same failure -/

/-- The lines of a job are numbered in order, if it copies lines. -/
def Job.Ascends : Job → Prop
  | .request _ _ => True
  | .copy _ _ _ lines _ => (lines.map Prod.fst).Pairwise (· < ·)

/-- Jobs with the same lines up to the line at which the given request is made. -/
inductive Job.SameUpTo (places : List Nat) (last : Call) : Job → Job → Prop
  | request {chain : Chain} {key : Text} :
      SameUpTo places last (.request chain key) (.request chain key)
  | copy {chain : Chain} {dir : Text} {index index' : Nat} {lines lines' : List (Nat × Text)}
      {pending pending' : Bool} :
      (∀ number, last.places[places.length]? = some number →
        (lines.takeWhile fun entry => entry.1 ≤ number).map Prod.snd <+: lines'.map Prod.snd) →
        SameUpTo places last (.copy chain dir index lines pending)
          (.copy chain dir index' lines' pending')

/-- The first of the lines up to a place is there also if the lines behind the place are others. -/
theorem exists_cons_of_upTo {place number : Nat} {line : Text} {rest lines : List (Nat × Text)}
    (h : (((number, line) :: rest).takeWhile fun entry => entry.1 ≤ place).map Prod.snd <+:
      lines.map Prod.snd) (hnumber : number ≤ place) :
    ∃ number' rest', lines = (number', line) :: rest' ∧
      (rest.takeWhile fun entry => entry.1 ≤ place).map Prod.snd <+: rest'.map Prod.snd := by
  rw [List.takeWhile_cons_of_pos (by simpa using hnumber), List.map_cons] at h
  obtain ⟨more, hmore⟩ := h
  obtain ⟨⟨number', _⟩, rest', rfl, rfl, hrest⟩ := List.map_eq_cons_iff.mp hmore.symm
  exact ⟨number', rest', rfl, more, hrest.symm⟩

/-- A line in front of the one at which a request is made is there also if the lines behind that one
are others, and so are the lines between the two. -/
theorem exists_cons_of_awaits {last : Call} {chain : Chain} {dir line : Text} {index number : Nat}
    {pending : Bool} {rest lines : List (Nat × Text)}
    (h : ∀ place, last.places[places.length]? = some place →
      (((number, line) :: rest).takeWhile fun entry => entry.1 ≤ place).map Prod.snd <+:
        lines.map Prod.snd)
    (hascends : (((number, line) :: rest).map Prod.fst).Pairwise (· < ·))
    (hawaits : (Job.copy chain dir index rest pending).Awaits places last) :
    ∃ number' rest', lines = (number', line) :: rest' ∧
      ∀ place, last.places[places.length]? = some place →
        (rest.takeWhile fun entry => entry.1 ≤ place).map Prod.snd <+: rest'.map Prod.snd := by
  obtain ⟨place, hmem, hplace⟩ := hawaits
  have hless : number < place := (List.pairwise_cons.mp hascends).1 place hmem
  obtain ⟨number', rest', rfl, hrest⟩ := exists_cons_of_upTo (h place hplace) hless.le
  refine ⟨number', rest', rfl, fun other hother => ?_⟩
  rw [hplace] at hother
  rw [← Option.some.inj hother]
  exact hrest

/-- A job that fails at a request fails in the same way with the edited sources. -/
theorem Traced.fails_edited (h : Traced r places job s made result s') (hresult : result = .error e)
    (hplaced : job.At places) (hascends : job.Ascends) (hstack : Stacked job.chain s) {last : Call}
    (hlast : made.getLast? = some last) (hother : r.Edited last other) {job' : Job}
    (hjob : job.SameUpTo places last job') {u : Expansion} (hs : s.Edited last u) :
    ∃ u', Runs { r with reader := other } job' u (.error e) u' := by
  -- both runs take the same rules; the lines that differ are behind those that the rules look at
  induction h generalizing job' u with
  | unlocated hlocate =>
    cases hjob
    obtain rfl := Except.error.inj hresult
    obtain ⟨n, hlocate'⟩ := hother.locate_error hs.cache hlocate
    exact ⟨_, .unlocated hlocate'⟩
  | cyclic hlocate hchain he =>
    cases hjob
    obtain rfl := Except.error.inj hresult
    obtain ⟨target', n, hlocate', htarget, -⟩ := hother.locate_ok hs.cache hlocate
    rw [← htarget.found.id] at hchain
    rw [he]
    exact ⟨_, .cyclic hlocate' hchain⟩
  | repeated | ended => simp at hresult
  | @unfolded places chain key s s' target m made result hlocate hchain hnew hcopy ih =>
    cases hjob
    obtain ⟨target', n, hlocate', htarget, hcache⟩ := hother.locate_ok hs.cache hlocate
    obtain ⟨last', hlast', hstops⟩ := hcopy.stopsAt hresult
    have hsame : made.getLast? = some last := by
      simpa [List.getLast?_cons, hlast'] using hlast
    obtain rfl : last' = last := Option.some.inj (hlast'.symm.trans hsame)
    -- the section has its place in the chain and its include line at the same place in the numbers
    have hupTo : ∀ number, last'.places[places.length]? = some number →
        (target.found.lines.takeWhile fun entry => entry.1 ≤ number).map Prod.snd <+:
          target'.found.lines.map Prod.snd := by
      intro number hnumber
      have hentry : last'.chain[chain.length]? = some (target.found.id, key) := by
        simpa [Job.chain] using
          List.prefix_iff_getElem?.mp hstops.chain chain.length (by simp [Job.chain])
      refine htarget.found.upTo (List.mem_of_getElem? (i := chain.length) ?_)
      rw [Call.stops, List.getElem?_zip_eq_some, List.getElem?_map, hentry]
      refine ⟨rfl, ?_⟩
      rw [← show places.length = chain.length from hplaced]
      exact hnumber
    obtain ⟨u', hcopied⟩ := ih hresult (by simpa [Job.At] using hplaced) (Text.numbers_ascend _ _)
      ((Stacked.invariant r).begun hlocate hchain hnew hstack) hlast' (.copy hupTo)
      (hs.begin hcache htarget)
    refine ⟨u', .unfolded hlocate' ?_ ?_ ?_⟩
    · rwa [htarget.found.id]
    · rwa [htarget.found.id, hs.expanded]
    · rw [htarget.found.id, htarget.name]
      exact hcopied
  | @refused places chain dir line key index number rest pending s s' made e' hkey hrequest ih =>
    cases hjob with
    | copy hupTo =>
      obtain ⟨last', hlast', hstops⟩ := hrequest.stopsAt rfl
      obtain rfl : last' = last := Option.some.inj (hlast'.symm.trans hlast)
      have hplace : last'.places[places.length]? = some number := by
        simpa using List.prefix_iff_getElem?.mp hstops.numbers places.length (by simp)
      obtain ⟨number', rest', rfl, -⟩ := exists_cons_of_upTo (hupTo number hplace) le_rfl
      obtain ⟨u', hrequested⟩ := ih hresult (by simpa [Job.At] using hplaced) trivial hstack hlast
        .request hs
      exact ⟨u', .refused hkey hrequested⟩
  | @included places chain dir line key index number rest pending s t s' made more inner result
      hkey hrequest hrest _ ihrest =>
    have herror := map_eq_error hresult
    cases hjob with
    | copy hupTo =>
      obtain ⟨last', hlast', hstops⟩ := hrest.stopsAt herror
      have hsame : more.getLast? = some last := by
        simpa [List.getLast?_append, hlast'] using hlast
      obtain rfl : last' = last := Option.some.inj (hlast'.symm.trans hsame)
      obtain ⟨number', rest', rfl, hrestUpTo⟩ := exists_cons_of_awaits hupTo hascends hstops.awaits
      -- what was included before is finished when the request fails
      have hfresh : ∀ id ∈ t.expanded, id ∉ s.expanded → last'.Finished id := by
        intro id hid hnot
        refine ⟨hstops.begun hid, fun hstop => ?_⟩
        rcases hstops.fresh hstop with hchain | hlater
        · exact hnot (hstack.current hchain)
        · exact hlater hid
      obtain ⟨inner', t', hrequested, hmiddle⟩ :=
        hrequest.runs.edited hother hfresh .request hs
      obtain ⟨u', hcopied⟩ := ihrest herror hplaced (List.pairwise_cons.mp hascends).2
        (hrequest.runs.keeps (Stacked.invariant r) hstack) hlast' (.copy hrestUpTo) hmiddle
      exact ⟨u', .included hkey hrequested hcopied⟩
  | @copied places chain dir line index number rest pending s s' made result hkey hrest ih =>
    have herror := map_eq_error hresult
    cases hjob with
    | copy hupTo =>
      obtain ⟨last', hlast', hstops⟩ := hrest.stopsAt herror
      obtain rfl : last' = last := Option.some.inj (hlast'.symm.trans hlast)
      obtain ⟨number', rest', rfl, hrestUpTo⟩ := exists_cons_of_awaits hupTo hascends hstops.awaits
      obtain ⟨u', hcopied⟩ := ih herror hplaced (List.pairwise_cons.mp hascends).2 hstack hlast
        (.copy hrestUpTo) hs
      exact ⟨u', .copied hkey hcopied⟩

end

/-- The request that fails decides how an expansion fails.  Let packages be texts, and let the
reader be a table of texts, bytes and missing contents.  An expansion succeeds exactly if none of
its requests is refused.  Otherwise it stops at the first request that is refused, and fails with
the error of that request.  The error stays the same if sections that are not begun by then are
changed, and those that are being expanded behind the include lines at hand. -/
theorem expand_fails_at_first_refused {r : Registry} {shelf : Shelf}
    (hreader : r.reader = .table shelf) (hshelf : ∀ entry ∈ shelf, entry.2.Ordinary)
    (hpackages : ∀ d ∈ r.declarations, ∀ package, d.package = some package →
      ∃ owner, package = .text owner)
    (key : Text) {m : Memory} (hm : m.cache.Parsed) :
    ((∃ expanded m', expand r key m = (.ok expanded, m')) ↔
      ∀ call ∈ calls r key m, ∀ cause, ¬ call.Refused r cause) ∧
    ∀ e m', expand r key m = (.error e, m') →
      ∃ earlier last cause, calls r key m = earlier ++ [last] ∧
        (∀ call ∈ earlier, ∀ cause, ¬ call.Refused r cause) ∧
        last.Refused r cause ∧ e = .effect cause ∧
        ∀ other, r.Edited last other →
          ∃ n', expand { r with reader := other } key m = (.error e, n') := by
  obtain ⟨result, s, htraced, hexpand⟩ := expand_traced r key m
  have hr : r.Ordinary := Registry.ordinary_of_table hreader hshelf hpackages
  have hparsed : ∀ call ∈ calls r key m, call.before.memory.cache.Parsed := fun call hcall =>
    (htraced.keeps (Cache.Parsed.invariant r) hm call hcall).1
  cases result with
  | ok code =>
    have hallowed : ∀ call ∈ calls r key m, ∀ cause, ¬ call.Refused r cause := by
      intro call hcall cause hrefused
      exact htraced.not_fails call hcall _ (hrefused.fails hr (hparsed call hcall))
    refine ⟨⟨fun _ => hallowed, fun _ => ⟨_, _, hexpand⟩⟩, ?_⟩
    intro e m' herror
    rw [hexpand] at herror
    simp [Except.map] at herror
  | error e =>
    obtain ⟨earlier, last, hcalls, hearlier, hfails⟩ := htraced.last_fails rfl
    have hlast : last ∈ calls r key m := by simp [hcalls]
    obtain ⟨cause, rfl, hrefused⟩ := hfails.refused hr (hparsed last hlast)
    refine ⟨⟨?_, fun hallowed => absurd hrefused (hallowed last hlast cause)⟩, ?_⟩
    · rintro ⟨expanded, m', hok⟩
      rw [hexpand] at hok
      simp [Except.map] at hok
    · intro e m' herror
      obtain rfl : Failure.effect cause = e := by
        rw [hexpand] at herror
        exact Except.error.inj (congrArg Prod.fst herror)
      refine ⟨earlier, last, cause, hcalls, ?_, hrefused, rfl, fun other hother => ?_⟩
      · intro call hcall cause' hrefused'
        have hmem : call ∈ calls r key m := by
          rw [hcalls]
          exact List.mem_append_left _ hcall
        exact hearlier call hcall _ (hrefused'.fails hr (hparsed call hmem))
      · obtain ⟨u, hruns⟩ := htraced.fails_edited rfl rfl trivial (.start m)
          (by simp [hcalls]) hother .request ⟨rfl, Cache.Edited.refl m.cache⟩
        exact ⟨u.memory, expand_eq_of_runs hruns⟩

/-- A file in which a section includes another one and then one that is missing. -/
def canyonText : Text :=
  "-- main\n#include \"rock.face\"\n#include \"rock.none\"\nend\n-- spare\ns\n".toList

/-- The file with other lines behind the include that fails. -/
def gorgeText : Text :=
  ("-- main\n#include \"rock.face\"\n#include \"rock.none\"\n#include \"gone.away\"\n" ++
    "more\n-- spare\n#include \"canyon.main\"\n").toList

/-- The canyon, with a text of its own, beside the rock. -/
def canyonShelf (text : Text) : Shelf :=
  [("fx/canyon.glsl".toList, .text text), ("fx/rock.glsl".toList, .text "-- face\nf\n".toList)]

/-- The canyon as it was at first. -/
def canyonScene : Registry :=
  ⟨[], "fx".toList, "glsl".toList, .table (canyonShelf canyonText), "/work".toList⟩

/-- What identifies a section of the canyon. -/
def canyonId (key : String) : SectionId := ("/work/fx/canyon.glsl".toList, key.toList)

/-- A section of the canyon with its body. -/
def canyonSection (key body : String) (firstLine : Nat) : Section :=
  ⟨"/work/fx/canyon.glsl".toList, key.toList, body.toList, firstLine⟩

/-- A section of the canyon is identified by its key. -/
theorem id_canyonSection (key body : String) (firstLine : Nat) :
    (canyonSection key body firstLine).id = canyonId key := rfl

/-- The two texts of the canyon agree in all lines that come before its main section stops at line
three. -/
theorem canyonText_edited {last : Call} (hstops : last.stops = [(canyonId "main", 3)])
    (hbegun : canyonId "spare" ∉ last.before.expanded)
    (hchain : canyonId "main" ∈ last.chain.map Prod.fst) (origin : Option SourceFile) :
    (Effect.parse canyonText "/work/fx/canyon.glsl".toList origin).Edited last
      (Effect.parse gorgeText "/work/fx/canyon.glsl".toList origin) := by
  have hsections : (Effect.parse canyonText "/work/fx/canyon.glsl".toList none).sections =
      [canyonSection "main" "#include \"rock.face\"\n#include \"rock.none\"\nend\n" 2,
        canyonSection "spare" "s\n" 6] := by decide +kernel
  have hothers : (Effect.parse gorgeText "/work/fx/canyon.glsl".toList none).sections =
      [canyonSection "main" ("#include \"rock.face\"\n#include \"rock.none\"\n" ++
          "#include \"gone.away\"\nmore\n") 2,
        canyonSection "spare" "#include \"canyon.main\"\n" 7] := by decide +kernel
  refine ⟨by rw [Effect.identity_parse, Effect.identity_parse], ?_⟩
  rw [Effect.sections_parse_origin, hsections, Effect.sections_parse_origin, hothers]
  refine .cons ⟨?_, ?_, ?_⟩ (.cons ⟨?_, ?_, ?_⟩ .nil)
  · rw [id_canyonSection, id_canyonSection]
  · intro hfinished
    rw [id_canyonSection] at hfinished
    exact absurd hchain hfinished.2
  · intro number hnumber
    rw [hstops, List.mem_singleton] at hnumber
    rw [(Prod.mk.inj hnumber).2]
    decide +kernel
  · rw [id_canyonSection, id_canyonSection]
  · intro hfinished
    rw [id_canyonSection] at hfinished
    exact absurd hfinished.1 hbegun
  · intro number hnumber
    rw [id_canyonSection, hstops, List.mem_singleton] at hnumber
    exact absurd (Prod.mk.inj hnumber).1 (by decide +kernel)

/-- The canyon agrees with the one in which the text was edited. -/
theorem canyonScene_edited {last : Call} (hstops : last.stops = [(canyonId "main", 3)])
    (hbegun : canyonId "spare" ∉ last.before.expanded)
    (hchain : canyonId "main" ∈ last.chain.map Prod.fst) :
    canyonScene.Edited last (.table (canyonShelf gorgeText)) where
  has file := by simp only [canyonScene, Reader.has, canyonShelf, List.any_cons]
  read {name file} hresolve := by
    obtain ⟨hdir, hpackage⟩ := Registry.resolve_eq_ok hresolve
    have hplain : file.package = none := by
      simpa [Registry.embeddedIdentities, canyonScene] using hpackage
    by_cases hlocation : file.location = "fx/canyon.glsl".toList
    · have hidentity : file.identity = "/work/fx/canyon.glsl".toList := by
        unfold SourceFile.identity
        rw [hplain, hdir, hlocation]
        decide +kernel
      have hread : ∀ text, ({ canyonScene with reader := .table (canyonShelf text) } :
          Registry).read file = .ok text := by
        intro text
        rw [Registry.read_eq_ok_iff]
        simp [Reader.read, canyonShelf, hlocation, ReadOutcome.text?]
      rw [hidentity, hread gorgeText]
      rw [show canyonScene.read file = .ok canyonText from hread canyonText]
      exact .ok (canyonText_edited hstops hbegun hchain _)
    · have hne : (file.location == "fx/canyon.glsl".toList) = false := by simpa using hlocation
      have hlookup : (canyonShelf gorgeText).lookup file.location =
          (canyonShelf canyonText).lookup file.location := by
        simp only [canyonShelf, List.lookup_cons, hne]
      have hread : ({ canyonScene with reader := .table (canyonShelf gorgeText) } :
          Registry).read file = canyonScene.read file := by
        unfold Registry.read
        simp only [Reader.sourceReader_read]
        unfold Reader.read
        dsimp only [canyonScene]
        rw [hlookup]
      rw [hread]
      cases canyonScene.read file with
      | ok text => exact .ok (.refl _)
      | error e => exact .error

/-- The include of a section that is missing fails, whatever is written behind it. -/
theorem expand_fails_at_first_refused_canyon :
    ∃ e earlier last m' n', e = .effect (.sectionNotFound "/work/fx/rock.glsl".toList "none".toList
        (some "rock.none".toList)) ∧
      (∀ entry ∈ canyonShelf canyonText, entry.2.Ordinary) ∧ Cache.empty.Parsed ∧
      expand canyonScene "canyon.main".toList ⟨.empty, [], []⟩ = (.error e, m') ∧
      calls canyonScene "canyon.main".toList ⟨.empty, [], []⟩ = earlier ++ [last] ∧
      earlier.length = 2 ∧ (∀ call ∈ earlier, ∀ cause, ¬ call.Refused canyonScene cause) ∧
      (∃ cause, last.Refused canyonScene cause ∧ e = .effect cause) ∧
      expand { canyonScene with reader := .table (canyonShelf gorgeText) } "canyon.main".toList
        ⟨.empty, [], []⟩ = (.error e, n') := by
  have hshelf : ∀ entry ∈ canyonShelf canyonText, entry.2.Ordinary := by
    simp [canyonShelf, ReadOutcome.Ordinary]
  have hcache : Cache.empty.Parsed := Cache.parsed_of_entries_eq_nil rfl
  obtain ⟨m', hexpand⟩ := exists_of_isError
    (expand canyonScene "canyon.main".toList ⟨.empty, [], []⟩)
    (.effect (.sectionNotFound "/work/fx/rock.glsl".toList "none".toList
      (some "rock.none".toList))) (by decide +kernel)
  obtain ⟨-, hfails⟩ := expand_fails_at_first_refused (r := canyonScene) rfl hshelf
    (by simp [canyonScene]) "canyon.main".toList (m := ⟨.empty, [], []⟩) hcache
  obtain ⟨earlier, last, cause, hcalls, hearlier, hrefused, he, hedited⟩ := hfails _ m' hexpand
  have hlength : (calls canyonScene "canyon.main".toList ⟨.empty, [], []⟩).length = 3 := by
    decide +kernel
  have hlast : (calls canyonScene "canyon.main".toList ⟨.empty, [], []⟩).getLast?.map
      (fun call => (call.stops, call.before.expanded.contains (canyonId "spare"),
        (call.chain.map Prod.fst).contains (canyonId "main"))) =
      some ([(canyonId "main", 3)], false, true) := by decide +kernel
  rw [hcalls, List.getLast?_concat, Option.map_some, Option.some.injEq, Prod.mk.injEq,
    Prod.mk.injEq] at hlast
  obtain ⟨hstops, hspare, hmain⟩ := hlast
  obtain ⟨n', hagain⟩ := hedited _
    (canyonScene_edited hstops (by simpa using hspare) (List.contains_iff_mem.mp hmain))
  rw [hcalls, List.length_append, List.length_singleton] at hlength
  exact ⟨_, earlier, last, m', n', rfl, hshelf, hcache, hexpand, hcalls, by omega, hearlier,
    ⟨cause, hrefused, he⟩, hagain⟩

end ShaderCompose
