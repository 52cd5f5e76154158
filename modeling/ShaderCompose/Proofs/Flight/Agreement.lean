import ShaderCompose.Proofs.Flight.Sharing
import ShaderCompose.Proofs.Loading

/-!
# One read for all

As long as the cache is not emptied, a source is read with success at most once, and everybody who
gets an effect for an identity gets the one that came of this read.  An effect is published before
its record leaves the table, so at any moment after the read there is something that keeps others
from reading: the loader which is about to publish, or the cache.
-/

set_option autoImplicit false

namespace ShaderCompose.Flight

namespace State

/-! ## Reads that succeed -/

/-- The effect that comes of an event, with the identity of its source, if the event is a read that
succeeds. -/
def parsed? (s : State) : Event → Option (Text × Loaded)
  | .turn t source =>
    match s.threads[t]? with
    | some ⟨file, .reading _⟩ =>
      match source file with
      | .ok effect => some (file.identity, ⟨effect, s.cache.parses⟩)
      | .error _ => none
    | _ => none
  | _ => none

/-- The effects that come of the reads of a run. -/
def parses (s : State) : List Event → List (Text × Loaded)
  | [] => []
  | event :: rest =>
    match s.step event with
    | some next => (s.parsed? event).toList ++ next.parses rest
    | none => []

/-- An effect comes of an event only if a loader reads its source with success, and then it is the
effect that was read, with the next serial number. -/
theorem parsed?_eq_some {s : State} {event : Event} {entry : Text × Loaded}
    (h : s.parsed? event = some entry) :
    ∃ t source file i effect, event = .turn t source ∧ s.At t file (.reading i) ∧
      source file = .ok effect ∧ entry = (file.identity, ⟨effect, s.cache.parses⟩) := by
  cases event with
  | call file => simp [parsed?] at h
  | clear => simp [parsed?] at h
  | turn t source =>
    simp only [parsed?] at h
    split at h
    · next file i hthread =>
      split at h
      · next effect hsource =>
        exact ⟨t, source, file, i, effect, rfl, hthread, hsource, (Option.some.inj h).symm⟩
      · simp at h
    · simp at h

/-- An effect is around for an identity: it is in the cache, a thread is sure of it, or a record has
it. -/
inductive Holds (s : State) : Text → Loaded → Prop
  | cached {identity : Text} {loaded : Loaded} :
      s.cache.get? identity = some loaded → Holds s identity loaded
  | thread {t : Nat} {file : SourceFile} {phase : Phase} {loaded : Loaded} :
      s.At t file phase → phase.value? = some loaded → Holds s file.identity loaded
  | record {i : Nat} {record : Record} {loaded : Loaded} :
      s.records[i]? = some record → record.effect = some loaded → Holds s record.identity loaded

end State

section

variable {s s' : State} {t : Nat} {file : SourceFile} {old new : Phase} {event : Event}

/-- What is around after a step of a thread was around before it or is fresh, if this is so for the
cache, for the thread and for the records. -/
theorem State.Holds.of_moved {identity : Text} {loaded : Loaded} (h : s'.Holds identity loaded)
    (hmoved : Moved s s' t file old new) (fresh : Option (Text × Loaded))
    (hcache : ∀ {identity loaded}, s'.cache.get? identity = some loaded →
      s.Holds identity loaded ∨ fresh = some (identity, loaded))
    (hthread : ∀ {loaded}, new.value? = some loaded →
      s.Holds file.identity loaded ∨ fresh = some (file.identity, loaded))
    (hrecords : ∀ {i : Nat} {record : Record} {loaded}, s'.records[i]? = some record →
      record.effect = some loaded →
        s.Holds record.identity loaded ∨ fresh = some (record.identity, loaded)) :
    s.Holds identity loaded ∨ fresh = some (identity, loaded) := by
  cases h with
  | cached hget => exact hcache hget
  | thread hat hvalue =>
    rcases hmoved.after.mp hat with ⟨-, rfl, rfl⟩ | ⟨-, hat⟩
    · exact hthread hvalue
    · exact Or.inl (.thread hat hvalue)
  | record hrecord heffect => exact hrecords hrecord heffect

/-- A record that is there after a change was there before, or is what the change made of the record
at this place. -/
theorem State.of_getElem?_setRecord {i j : Nat} {f : Record → Record} {record : Record}
    (h : (s.setRecord i f).records[j]? = some record) :
    s.records[j]? = some record ∨
      i = j ∧ ∃ before, s.records[j]? = some before ∧ record = f before := by
  rw [State.getElem?_setRecord] at h
  by_cases hij : i = j
  · rw [if_pos hij, Option.map_eq_some_iff] at h
    obtain ⟨before, hbefore, hrecord⟩ := h
    exact Or.inr ⟨hij, before, hbefore, hrecord.symm⟩
  · rw [if_neg hij] at h
    exact Or.inl h

/-- What a record has was around before a change of records that keeps their effects. -/
theorem State.holds_of_setRecord {i j : Nat} {f : Record → Record}
    (hidentity : ∀ record, (f record).identity = record.identity)
    (heffect : ∀ record, (f record).effect = record.effect) {record : Record} {loaded : Loaded}
    (hrecord : (s.setRecord i f).records[j]? = some record)
    (hloaded : record.effect = some loaded) :
    s.Holds record.identity loaded := by
  rcases State.of_getElem?_setRecord hrecord with hrecord | ⟨rfl, before, hbefore, rfl⟩
  · exact .record hrecord hloaded
  · rw [heffect] at hloaded
    rw [hidentity]
    exact .record hbefore hloaded

/-- Nothing is around after a step of a thread that was not around before, but for what it reads. -/
theorem Orderly.holds_turn (hs : Orderly s) {source : Source} (hturn : Turn s t source s')
    {identity : Text} {loaded : Loaded} (h : s'.Holds identity loaded) :
    s.Holds identity loaded ∨ s.parsed? (.turn t source) = some (identity, loaded) := by
  have hcached : ∀ {identity loaded}, s.cache.get? identity = some loaded →
      s.Holds identity loaded ∨ s.parsed? (.turn t source) = some (identity, loaded) :=
    fun hget => Or.inl (.cached hget)
  have hrecorded : ∀ {i : Nat} {record : Record} {loaded}, s.records[i]? = some record →
      record.effect = some loaded → s.Holds record.identity loaded ∨
        s.parsed? (.turn t source) = some (record.identity, loaded) :=
    fun hrecord heffect => Or.inl (.record hrecord heffect)
  cases hturn with
  | @hit file loaded hat hget =>
    refine h.of_moved (.of_setPhase hat rfl) _ hcached ?_ hrecorded
    rintro value ⟨rfl⟩
    exact Or.inl (.cached hget)
  | @join file i hat hget hlookup =>
    exact h.of_moved (.of_setPhase hat rfl) _ hcached (by simp [Phase.value?]) hrecorded
  | @register file hat hget hlookup =>
    refine h.of_moved (.of_setPhase hat rfl) _ hcached (by simp [Phase.value?]) ?_
    intro i record value hrecord heffect
    change (s.records ++ [_])[i]? = some record at hrecord
    rw [getElem?_snoc] at hrecord
    split at hrecord
    · -- the new record has no effect yet
      rw [← Option.some.inj hrecord] at heffect
      simp at heffect
    · exact hrecorded hrecord heffect
  | @wake file i record hat hrecord hset =>
    refine h.of_moved (.of_setPhase hat rfl) _ hcached ?_ hrecorded
    intro value hvalue
    obtain ⟨same, hsame, hidentity, -⟩ := (hs.sound hat).recorded rfl
    obtain rfl := Option.some.inj (hrecord.symm.trans hsame)
    rw [← hidentity]
    rcases (hs.decided hrecord hset).reply_cases with ⟨got, heffect, -, hreply⟩ | ⟨e, -, -, hreply⟩
    · rw [hreply] at hvalue
      obtain rfl : got = value := by simpa [Phase.value?] using hvalue
      exact hrecorded hrecord heffect
    · rw [hreply] at hvalue
      simp [Phase.value?] at hvalue
  | @parse file i effect hat hsource =>
    have hfresh : s.parsed? (.turn t source) =
        some (file.identity, ⟨effect, s.cache.parses⟩) := by
      unfold State.At at hat
      simp only [State.parsed?, hat, hsource]
    refine h.of_moved (.of_setPhase hat rfl) _ hcached ?_ ?_
    · rintro value ⟨rfl⟩
      exact Or.inr hfresh
    · intro j record value hrecord heffect
      rcases State.of_getElem?_setRecord hrecord with hrecord | ⟨rfl, before, hbefore, rfl⟩
      · exact hrecorded hrecord heffect
      · obtain ⟨same, hsame, hidentity, -⟩ := (hs.sound hat).recorded rfl
        obtain rfl := Option.some.inj (hbefore.symm.trans hsame)
        obtain rfl := Option.some.inj heffect
        exact Or.inr (hidentity ▸ hfresh)
  | @fail file i e hat hsource =>
    refine h.of_moved (.of_setPhase hat rfl) _ hcached (by simp [Phase.value?]) ?_
    intro j record value hrecord heffect
    exact Or.inl (State.holds_of_setRecord (f := fun record => { record with error := some e })
      (fun _ => rfl) (fun _ => rfl) hrecord heffect)
  | @publish file i value hat =>
    have hheld : s.Holds file.identity value := .thread hat rfl
    refine h.of_moved (.of_setPhase hat rfl) _ ?_ ?_ ?_
    · intro other got hget
      change (s.cache.publish file.identity value).get? other = some got at hget
      rw [Cache.get?_publish] at hget
      split at hget
      · next hother =>
        obtain rfl := Option.some.inj hget
        exact Or.inl (hother ▸ hheld)
      · exact hcached hget
    · rintro got ⟨rfl⟩
      exact Or.inl hheld
    · exact hrecorded
  | @retire file i reply hat =>
    refine h.of_moved (.of_setPhase hat rfl) _ hcached ?_ hrecorded
    intro value hvalue
    exact Or.inl (.thread hat (by cases reply <;> simp_all [Phase.value?]))
  | @signal file i reply hat =>
    refine h.of_moved (.of_setPhase hat rfl) _ hcached ?_ ?_
    · intro value hvalue
      exact Or.inl (.thread hat (by cases reply <;> simp_all [Phase.value?]))
    · intro j record value hrecord heffect
      exact Or.inl (State.holds_of_setRecord (f := fun record => { record with signalled := true })
        (fun _ => rfl) (fun _ => rfl) hrecord heffect)

/-- What is around after a step was around before or was read in this step. -/
theorem Orderly.holds_step (hs : Orderly s) (hstep : s.step event = some s') {identity : Text}
    {loaded : Loaded} (h : s'.Holds identity loaded) :
    s.Holds identity loaded ∨ s.parsed? event = some (identity, loaded) := by
  rcases State.step_cases hstep with ⟨file, rfl, rfl⟩ | ⟨t, source, rfl, hturn⟩ | ⟨rfl, rfl⟩
  · refine Or.inl ?_
    cases h with
    | cached hget => exact .cached hget
    | thread hat hvalue =>
      rcases State.at_call.mp hat with ⟨-, -, rfl⟩ | hat
      · simp [Phase.value?] at hvalue
      · exact .thread hat hvalue
    | record hrecord heffect => exact .record hrecord heffect
  · exact hs.holds_turn hturn h
  · refine Or.inl ?_
    cases h with
    | cached hget => simp [State.clear, Cache.clear, Cache.get?] at hget
    | thread hat hvalue => exact .thread (t := _) hat hvalue
    | record hrecord heffect => exact .record hrecord heffect

/-- What is in the cache stays there through every step that does not empty it. -/
theorem isSome_get?_step (hstep : s.step event = some s') (hevent : event ≠ .clear)
    {identity : Text} (h : (s.cache.get? identity).isSome) : (s'.cache.get? identity).isSome := by
  rcases State.step_cases hstep with ⟨file, -, rfl⟩ | ⟨t, source, -, hturn⟩ | ⟨rfl, -⟩
  · exact h
  · cases hturn with
    | hit | join | register | wake | parse | fail | retire | signal => exact h
    | @publish file i loaded hat =>
      change ((s.cache.publish file.identity loaded).get? identity).isSome
      rw [Cache.get?_publish]
      split
      · rfl
      · exact h
  · exact absurd rfl hevent

/-- A thread that is about to publish an effect stays so, or the effect is in the cache. -/
theorem publishing_step (hstep : s.step event = some s') {i : Nat} {loaded : Loaded}
    (hat : s.At t file (.publishing i loaded)) :
    s'.At t file (.publishing i loaded) ∨ (s'.cache.get? file.identity).isSome := by
  rcases hat.step hstep with hkept | ⟨source, rfl⟩
  · exact Or.inl hkept
  · cases turn_of_advance hstep
    case publish other j value hother =>
      obtain ⟨rfl, -⟩ := hat.unique hother
      refine Or.inr ?_
      change ((s.cache.publish file.identity value).get? file.identity).isSome
      rw [Cache.get?_publish, if_pos rfl]
      rfl
    all_goals exact absurd (hat.unique ‹_›).2 (by simp)

/-- A thread that is about to read was so before, or has found neither an effect nor a record. -/
theorem reading_step (hstep : s.step event = some s') {i : Nat} (hat : s'.At t file (.reading i)) :
    s.At t file (.reading i) ∨
      s.cache.get? file.identity = none ∧ s.pending.lookup file.identity = none := by
  rcases State.step_cases hstep with ⟨other, -, rfl⟩ | ⟨u, source, -, hturn⟩ | ⟨-, rfl⟩
  · rcases State.at_call.mp hat with ⟨-, -, hphase⟩ | hat
    · simp at hphase
    · exact Or.inl hat
  · cases hturn
    case register other hother hget hlookup =>
      rcases (State.at_setPhase hother rfl _).mp hat with ⟨-, rfl, -⟩ | ⟨-, hat⟩
      · exact Or.inr ⟨hget, hlookup⟩
      · exact Or.inl hat
    all_goals
      rcases (State.at_setPhase ‹s.At _ _ _› rfl _).mp hat with ⟨-, -, hphase⟩ | ⟨-, hat⟩
      · simp at hphase
      · exact Or.inl hat
  · exact Or.inl hat

/-! ## Threads agree -/

/-- Whoever has just read a source with success goes on to publish the effect. -/
theorem publishing_of_parsed (hstep : s.step event = some s') {identity : Text} {loaded : Loaded}
    (hparsed : s.parsed? event = some (identity, loaded)) :
    ∃ t file i, s.At t file (.reading i) ∧ file.identity = identity ∧
      s'.At t file (.publishing i loaded) := by
  obtain ⟨t, source, file, i, effect, rfl, hat, hsource, hentry⟩ := State.parsed?_eq_some hparsed
  obtain ⟨rfl, rfl⟩ := Prod.mk.inj hentry
  refine ⟨t, file, i, hat, rfl, ?_⟩
  cases turn_of_advance hstep
  all_goals obtain ⟨rfl, hphase⟩ := hat.unique ‹_›
  case parse j got hother hgot =>
    obtain rfl : i = j := by simpa using hphase
    obtain rfl : effect = got := Except.ok.inj (hsource.symm.trans hgot)
    exact State.at_setPhase_self hat rfl _
  case fail j e hother he =>
    simp [hsource] at he
  all_goals simp at hphase

/-- Only one thread at a time has an entry for an identity in the table. -/
theorem Orderly.lists_unique (hs : Orderly s) {identity : Text} {u i j : Nat}
    (ht : s.Lists t (identity, i)) (hu : s.Lists u (identity, j)) : t = u := by
  obtain rfl := hs.entry_unique (hs.listed.mpr ⟨t, ht⟩) (hs.listed.mpr ⟨u, hu⟩)
  exact hs.sole ht.loads hu.loads

/-- A state agrees with what was read so far: each identity was read with success at most once,
whatever is around for an identity is what was read, and what was read is in the cache or about to
be.  So nobody is about to read it again. -/
structure Agreeing (s : State) (done : List (Text × Loaded)) : Prop where
  orderly : Orderly s
  once : (done.map Prod.fst).Nodup
  held {identity : Text} {loaded : Loaded} : s.Holds identity loaded → (identity, loaded) ∈ done
  kept {identity : Text} : identity ∈ done.map Prod.fst → (s.cache.get? identity).isSome ∨
    ∃ t file i loaded, s.At t file (.publishing i loaded) ∧ file.identity = identity
  unread {t i : Nat} {file : SourceFile} :
    s.At t file (.reading i) → file.identity ∉ done.map Prod.fst

/-- At the start nothing was read and nothing is around. -/
theorem Agreeing.start (files : List SourceFile) : Agreeing (State.start files) [] := by
  refine ⟨Orderly.start files, by simp, ?_, by simp, by simp⟩
  intro identity loaded h
  cases h with
  | cached hget => simp [State.start, Cache.empty, Cache.get?] at hget
  | thread hat hvalue => simp [State.entering_of_start hat, Phase.value?] at hvalue
  | record hrecord => simp [State.start] at hrecord

/-- A read that succeeds is the first one with success for its identity. -/
theorem Agreeing.parsed_fresh {done : List (Text × Loaded)} (hs : Agreeing s done)
    {entry : Text × Loaded} (h : s.parsed? event = some entry) : entry.1 ∉ done.map Prod.fst := by
  obtain ⟨t, source, file, i, effect, rfl, hat, hsource, rfl⟩ := State.parsed?_eq_some h
  exact hs.unread hat

/-- Agreement with what was read is kept by every event but the emptying of the cache. -/
theorem Agreeing.step {done : List (Text × Loaded)} (hs : Agreeing s done)
    (hstep : s.step event = some s') (hevent : event ≠ .clear) :
    Agreeing s' (done ++ (s.parsed? event).toList) := by
  have hread : ∀ {identity}, identity ∈ (done ++ (s.parsed? event).toList).map Prod.fst →
      identity ∈ done.map Prod.fst ∨ ∃ loaded, s.parsed? event = some (identity, loaded) := by
    intro identity hmem
    obtain ⟨entry, hentry, rfl⟩ := List.mem_map.mp hmem
    rcases List.mem_append.mp hentry with hold | hnew
    · exact Or.inl (List.mem_map_of_mem hold)
    · exact Or.inr ⟨entry.2, Option.mem_toList.mp hnew⟩
  constructor
  case orderly => exact hs.orderly.step hstep
  case once =>
    cases hparsed : s.parsed? event with
    | none => simpa using hs.once
    | some entry =>
      rw [Option.toList_some, List.map_append]
      exact hs.once.append (List.nodup_singleton _)
        (List.disjoint_singleton.mpr (hs.parsed_fresh hparsed))
  case held =>
    intro identity loaded h
    rw [List.mem_append, Option.mem_toList]
    exact (hs.orderly.holds_step hstep h).imp hs.held id
  case kept =>
    intro identity hmem
    -- an effect goes from its loader to the cache, and leaves the cache with a clear only
    rcases hread hmem with hold | ⟨loaded, hparsed⟩
    · rcases hs.kept hold with hcached | ⟨t, file, i, loaded, hat, rfl⟩
      · exact Or.inl (isSome_get?_step hstep hevent hcached)
      · rcases publishing_step hstep hat with hat | hcached
        · exact Or.inr ⟨t, file, i, loaded, hat, rfl⟩
        · exact Or.inl hcached
    · obtain ⟨t, file, i, -, rfl, hat⟩ := publishing_of_parsed hstep hparsed
      exact Or.inr ⟨t, file, i, loaded, hat, rfl⟩
  case unread =>
    intro t i file hat hmem
    rcases reading_step hstep hat with hbefore | ⟨hget, hlookup⟩
    · rcases hread hmem with hold | ⟨loaded, hparsed⟩
      · exact hs.unread hbefore hold
      · -- only one thread is in the middle of loading the identity, and it is past its read
        obtain ⟨u, other, j, hother, hsame, hpublishing⟩ := publishing_of_parsed hstep hparsed
        obtain rfl : t = u := hs.orderly.lists_unique (hbefore.lists_iff.mpr ⟨rfl, rfl⟩)
          (hother.lists_iff.mpr ⟨rfl, hsame⟩)
        exact absurd (hat.unique hpublishing).2 (by simp)
    · -- no record is registered, so nobody is in the middle of loading the identity
      have hunlisted : ∀ {u j}, ¬ s.Lists u (file.identity, j) := by
        intro u j hlists
        exact State.notMem_of_lookup hlookup (hs.orderly.listed.mpr ⟨u, hlists⟩) rfl
      rcases hread hmem with hold | ⟨loaded, hparsed⟩
      · rcases hs.kept hold with hcached | ⟨u, other, j, loaded, hother, hsame⟩
        · simp [hget] at hcached
        · exact hunlisted (hother.lists_iff.mpr ⟨rfl, hsame⟩)
      · obtain ⟨u, other, j, hother, hsame, -⟩ := publishing_of_parsed hstep hparsed
        exact hunlisted (hother.lists_iff.mpr ⟨rfl, hsame⟩)

/-- Agreement with what was read is kept by every run in which the cache is not emptied. -/
theorem Agreeing.run {done : List (Text × Loaded)} {events : List Event} (hs : Agreeing s done)
    (hrun : s.run events = some s') (hclear : .clear ∉ events) :
    Agreeing s' (done ++ s.parses events) := by
  induction events generalizing s done with
  | nil =>
    obtain rfl : s = s' := by simpa [State.run] using hrun
    simpa [State.parses] using hs
  | cons event rest ih =>
    obtain ⟨next, hnext, hrest⟩ := State.run_cons.mp hrun
    have hevent : event ≠ .clear := List.ne_of_not_mem_cons hclear |>.symm
    have hlater : .clear ∉ rest := List.not_mem_of_not_mem_cons hclear
    simpa [State.parses, hnext, List.append_assoc] using ih (hs.step hnext hevent) hrest hlater

/-- For one identity there is only one effect around. -/
theorem Agreeing.same {done : List (Text × Loaded)} (hs : Agreeing s done) {identity : Text}
    {a b : Loaded} (ha : s.Holds identity a) (hb : s.Holds identity b) : a = b :=
  congrArg Prod.snd (List.inj_on_of_nodup_map hs.once (hs.held ha) (hs.held hb) rfl)

end

/-- In a run in which the cache is not emptied, whatever the order of the threads: at most one
thread is between registering and removing a record for an identity; at most one read of an identity
succeeds; nobody is about to read a source whose effect is in the cache; and all loads of an
identity that give an effect give the one that was read. -/
theorem loads_agree {files : List SourceFile} {events : List Event} {s : State}
    (hrun : (State.start files).run events = some s) (hclear : .clear ∉ events) :
    (∀ identity t u i j, s.Lists t (identity, i) → s.Lists u (identity, j) → t = u) ∧
    (∀ identity, (((State.start files).parses events).map Prod.fst).count identity ≤ 1) ∧
    (∀ t file i, s.At t file (.reading i) → s.cache.get? file.identity = none) ∧
    (∀ t file value, s.At t file (.finished (.ok value)) → ∃ loaded, value = some loaded ∧
      (file.identity, loaded) ∈ (State.start files).parses events) ∧
    (∀ t u file other a b, s.At t file (.finished (.ok a)) → s.At u other (.finished (.ok b)) →
      file.identity = other.identity → a = b) := by
  have hs : Agreeing s ((State.start files).parses events) :=
    (Agreeing.start files).run hrun hclear
  have hvalue : ∀ {t file value}, s.At t file (.finished (.ok value)) →
      ∃ loaded, value = some loaded ∧ s.Holds file.identity loaded := by
    intro t file value hat
    obtain ⟨loaded, rfl⟩ := Option.ne_none_iff_exists'.mp fun hnone =>
      (hs.orderly.sound hat).answered rfl (congrArg Except.ok hnone)
    exact ⟨loaded, rfl, .thread hat rfl⟩
  refine ⟨fun identity t u i j ht hu => hs.orderly.lists_unique ht hu, ?_, ?_, ?_, ?_⟩
  · intro identity
    exact List.nodup_iff_count_le_one.mp hs.once identity
  · intro t file i hat
    rw [Option.eq_none_iff_forall_ne_some]
    intro loaded hget
    exact hs.unread hat (List.mem_map_of_mem (hs.held (.cached hget)))
  · intro t file value hat
    obtain ⟨loaded, hloaded, hheld⟩ := hvalue hat
    exact ⟨loaded, hloaded, hs.held hheld⟩
  · intro t u file other a b ha hb hsame
    obtain ⟨x, rfl, hx⟩ := hvalue ha
    obtain ⟨y, rfl, hy⟩ := hvalue hb
    rw [hsame] at hx
    rw [hs.same hx hy]

/-- A source that is read with success, whatever the file is. -/
def grainSource : Source := fun file =>
  .ok (Effect.parse "-- Grain\nfloat grain;\n".toList file.identity (some file))

/-- Two threads load a source at the same time, and a third one comes when it is in the cache. -/
def grainTurns : List Event :=
  [.turn 0 grainSource, .turn 1 grainSource, .turn 0 grainSource, .turn 0 grainSource,
    .call grainFile, .turn 2 grainSource, .turn 0 grainSource, .turn 0 grainSource,
    .turn 1 grainSource]

/-- Two threads that load together and one that comes later get the same effect. -/
theorem loads_agree_grain :
    ∃ s a b c, (State.start [grainFile, grainFile]).run grainTurns = some s ∧
      s.At 0 grainFile (.finished (.ok a)) ∧ s.At 1 grainFile (.finished (.ok b)) ∧
      s.At 2 grainFile (.finished (.ok c)) ∧ a = b ∧ a = c := by
  have hrun : (State.start [grainFile, grainFile]).run grainTurns = some _ := rfl
  have hclear : .clear ∉ grainTurns := by simp [grainTurns]
  obtain ⟨-, -, -, -, hsame⟩ := loads_agree hrun hclear
  exact ⟨_, _, _, _, rfl, rfl, rfl, rfl, hsame 0 1 _ _ _ _ rfl rfl rfl,
    hsame 0 2 _ _ _ _ rfl rfl rfl⟩

end ShaderCompose.Flight
