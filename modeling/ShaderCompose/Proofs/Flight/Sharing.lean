import ShaderCompose.Proofs.Flight.Ownership

/-!
# What those who wait get

A thread that joins a load gets in the end what the loader of its record gets: the effect or the
failure that the record has once it is signalled, and never nothing.  What makes this so is that a
signalled record does not change any more, and that the loader ends with what it has noted there.
A load that fails does not touch the cache at any of its steps, and when nobody is in the middle of
a load the table of records is empty.
-/

set_option autoImplicit false

namespace ShaderCompose.Flight

/-! ## Single threads and records -/

/-- The effect that a thread has got, from the moment on that it is sure to end with it. -/
def Phase.value? : Phase → Option Loaded
  | .publishing _ loaded => some loaded
  | .retiring _ (.ok value) | .signalling _ (.ok value) | .finished (.ok value) => value
  | _ => none

/-- A thread has ended with a reply. -/
def State.Ends (s : State) (t : Nat) (reply : Reply) : Prop := ∃ file, s.At t file (.finished reply)

/-- What a decided record replies is its effect or its failure, whichever there is. -/
theorem Record.Decided.reply_cases {record : Record} (h : record.Decided) :
    (∃ loaded, record.effect = some loaded ∧ record.error = none ∧
      record.reply = .ok (some loaded)) ∨
    (∃ e, record.effect = none ∧ record.error = some e ∧ record.reply = .error e) := by
  obtain ⟨identity, effect, error, signalled⟩ := record
  cases effect with
  | none =>
    cases error with
    | none => simp [Decided] at h
    | some e => exact Or.inr ⟨e, rfl, rfl, rfl⟩
  | some loaded =>
    cases error with
    | none => exact Or.inl ⟨loaded, rfl, rfl, rfl⟩
    | some e => simp [Decided] at h

section

variable {s s' : State} {t : Nat} {file : SourceFile} {phase : Phase} {event : Event}

/-- A step of a thread moves this thread. -/
theorem Turn.moved {source : Source} (hturn : Turn s t source s') :
    ∃ file old new, Moved s s' t file old new := by
  cases hturn
  all_goals exact ⟨_, _, _, .of_setPhase ‹_› rfl⟩

/-- A thread stays where it is unless the event is its own turn. -/
theorem State.At.step (hat : s.At t file phase) (hstep : s.step event = some s') :
    s'.At t file phase ∨ ∃ source, event = .turn t source := by
  rcases State.step_cases hstep with ⟨other, -, rfl⟩ | ⟨u, source, rfl, hturn⟩ | ⟨-, rfl⟩
  · exact Or.inl (State.at_call.mpr (Or.inr hat))
  · by_cases hu : t = u
    · exact Or.inr ⟨source, by rw [hu]⟩
    · obtain ⟨other, old, new, hmoved⟩ := hturn.moved
      exact Or.inl (hmoved.after.mpr (Or.inr ⟨hu, hat⟩))
  · exact Or.inl hat

/-- What a thread has ended with stays as it is. -/
theorem State.Ends.step {reply : Reply} (h : s.Ends t reply) (hstep : s.step event = some s') :
    s'.Ends t reply := by
  obtain ⟨file, hat⟩ := h
  rcases hat.step hstep with hkept | ⟨source, rfl⟩
  · exact ⟨file, hkept⟩
  · cases turn_of_advance hstep
    all_goals exact absurd (hat.unique ‹_›).2 (by simp)

/-- A thread that waits goes on waiting, or takes what the signalled record replies. -/
theorem State.At.waiting_step {i : Nat} (hat : s.At t file (.waiting i))
    (hstep : s.step event = some s') :
    s'.At t file (.waiting i) ∨ ∃ record, s.records[i]? = some record ∧ record.signalled = true ∧
      s'.Ends t record.reply := by
  rcases hat.step hstep with hkept | ⟨source, rfl⟩
  · exact Or.inl hkept
  · cases turn_of_advance hstep
    case wake other j record hother hrecord hset =>
      obtain ⟨rfl, hphase⟩ := hat.unique hother
      obtain rfl : i = j := by simpa using hphase
      exact Or.inr ⟨record, hrecord, hset, file, State.at_setPhase_self hat rfl _⟩
    all_goals exact absurd (hat.unique ‹_›).2 (by simp)

/-- A thread that has got an effect has the same one after the next event. -/
theorem State.At.value_step {loaded : Loaded} (hat : s.At t file phase)
    (hvalue : phase.value? = some loaded) (hstep : s.step event = some s') :
    ∃ later, s'.At t file later ∧ later.value? = some loaded := by
  rcases hat.step hstep with hkept | ⟨source, rfl⟩
  · exact ⟨phase, hkept, hvalue⟩
  · cases turn_of_advance hstep
    all_goals obtain ⟨rfl, rfl⟩ := hat.unique ‹_›
    case publish i value _ =>
      exact ⟨_, State.at_setPhase_self hat rfl _, hvalue⟩
    case retire i reply _ =>
      refine ⟨_, State.at_setPhase_self hat rfl _, ?_⟩
      cases reply <;> simp_all [Phase.value?]
    case signal i reply _ =>
      refine ⟨_, State.at_setPhase_self hat rfl _, ?_⟩
      cases reply <;> simp_all [Phase.value?]
    all_goals simp [Phase.value?] at hvalue

/-- A thread that has got an effect has the same one after every run. -/
theorem State.At.value_run {loaded : Loaded} {events : List Event} (hat : s.At t file phase)
    (hvalue : phase.value? = some loaded) (hrun : s.run events = some s') :
    ∃ later, s'.At t file later ∧ later.value? = some loaded := by
  refine State.run_keeps (P := fun a => ∃ later, a.At t file later ∧ later.value? = some loaded)
    hrun ?_ ⟨phase, hat, hvalue⟩
  rintro event - a b ⟨later, hlater, hsame⟩ hstep
  exact hlater.value_step hsame hstep

/-- A signalled record does not change any more. -/
theorem Orderly.signalled_step (hs : Orderly s) (hstep : s.step event = some s') {i : Nat}
    {record : Record} (hrecord : s.records[i]? = some record) (hset : record.signalled = true) :
    s'.records[i]? = some record := by
  -- only a loader notes something in a record, and a record with a loader is not signalled
  have hother : ∀ {u j : Nat} {f : Record → Record}, s.Loads u j →
      (s.setRecord j f).records[i]? = some record := by
    intro u j f hu
    have hunset := hs.loaded.mp ⟨u, hu⟩
    have hne : j ≠ i := by
      rintro rfl
      simp [hrecord, hset] at hunset
    rw [State.getElem?_setRecord, if_neg hne, hrecord]
  rcases State.step_cases hstep with ⟨file, -, rfl⟩ | ⟨t, source, -, hturn⟩ | ⟨-, rfl⟩
  · exact hrecord
  · cases hturn with
    | hit | join | wake | publish | retire => exact hrecord
    | register hat hget hlookup =>
      have hlt : i < s.records.length := (List.getElem?_eq_some_iff.mp hrecord).1
      change (s.records ++ _)[i]? = some record
      rw [List.getElem?_append_left hlt, hrecord]
    | parse hat hsource => exact hother (hat.loads_iff.mpr rfl)
    | fail hat hsource => exact hother (hat.loads_iff.mpr rfl)
    | signal hat => exact hother (hat.loads_iff.mpr rfl)
  · exact hrecord

/-- A loader goes on to be the loader of its record, or signals it and ends with its reply. -/
theorem Orderly.loader_step (hs : Orderly s) (hstep : s.step event = some s') {u i : Nat}
    (hu : s.Loads u i) :
    s'.Loads u i ∨ ∃ record, s'.records[i]? = some record ∧ record.signalled = true ∧
      s'.Ends u record.reply := by
  obtain ⟨file, phase, hat, hloading⟩ := hu
  rcases hat.step hstep with hkept | ⟨source, rfl⟩
  · exact Or.inl ⟨file, phase, hkept, hloading⟩
  · cases turn_of_advance hstep
    all_goals obtain ⟨rfl, rfl⟩ := hat.unique ‹_›
    case parse | fail | publish | retire =>
      exact Or.inl ⟨file, _, State.at_setPhase_self hat rfl _, hloading⟩
    case signal j reply _ =>
      obtain rfl : j = i := by simpa [Phase.loading?] using hloading
      obtain ⟨record, hrecord, -, hreply, -⟩ := (hs.sound hat).recorded rfl
      refine Or.inr ⟨{ record with signalled := true }, ?_, rfl, file, ?_⟩
      · change (s.setRecord j _).records[j]? = _
        rw [State.getElem?_setRecord, if_pos rfl, hrecord]
        rfl
      · refine (State.at_setPhase hat rfl _).mpr (Or.inl ⟨rfl, rfl, ?_⟩)
        rw [← hreply]
        rfl
    all_goals simp [Phase.loading?] at hloading

/-! ## A thread that waits and its loader -/

/-- A thread has joined the load of another: it waits for the record of this loader, or the record
is signalled, the loader has ended with what the record replies, and the thread gets or has got the
same. -/
inductive Shares (s : State) (t loader i : Nat) : Prop
  | open {file : SourceFile} : s.Loads loader i → s.At t file (.waiting i) → Shares s t loader i
  | closed {record : Record} : s.records[i]? = some record → record.signalled = true →
      s.Ends loader record.reply →
      (∃ file, s.At t file (.waiting i)) ∨ s.Ends t record.reply → Shares s t loader i

/-- A thread that has joined a load shares it after the next event. -/
theorem Shares.step {loader i : Nat} (h : Shares s t loader i) (hs : Orderly s)
    (hstep : s.step event = some s') : Shares s' t loader i := by
  cases h with
  | @«open» file hloads hwaits =>
    -- a record with a loader is not signalled, so the thread cannot have gone on
    have hunset := hs.loaded.mp ⟨loader, hloads⟩
    have hwaiting : s'.At t file (.waiting i) := by
      rcases hwaits.waiting_step hstep with hkept | ⟨record, hrecord, hset, -⟩
      · exact hkept
      · simp [hrecord, hset] at hunset
    rcases hs.loader_step hstep hloads with hkept | ⟨record, hrecord, hset, hends⟩
    · exact .open hkept hwaiting
    · exact .closed hrecord hset hends (Or.inl ⟨_, hwaiting⟩)
  | closed hrecord hset hends hthread =>
    have hsame := hs.signalled_step hstep hrecord hset
    refine .closed hsame hset (hends.step hstep) ?_
    rcases hthread with ⟨file, hwaits⟩ | hended
    · rcases hwaits.waiting_step hstep with hkept | ⟨other, hother, -, hended⟩
      · exact Or.inl ⟨file, hkept⟩
      · obtain rfl := Option.some.inj (hrecord.symm.trans hother)
        exact Or.inr hended
    · exact Or.inr (hended.step hstep)

/-- A thread that has joined a load shares it after every run. -/
theorem Shares.run {loader i : Nat} {events : List Event} (h : Shares s t loader i)
    (hs : Orderly s) (hrun : s.run events = some s') : Shares s' t loader i := by
  refine (State.run_keeps (P := fun a => Orderly a ∧ Shares a t loader i) hrun ?_ ⟨hs, h⟩).2
  rintro event - a b ⟨ha, hshares⟩ hstep
  exact ⟨ha.step hstep, hshares.step ha hstep⟩

/-- When a thread that has joined a load ends, the loader has ended with the same reply, which is
the effect or the failure of the record. -/
theorem Shares.ends {loader i : Nat} {reply : Reply} (h : Shares s t loader i) (hs : Orderly s)
    (hended : s.Ends t reply) :
    s.Ends loader reply ∧ ∃ record, s.records[i]? = some record ∧ record.signalled = true ∧
      record.Decided ∧ record.reply = reply := by
  obtain ⟨file, hat⟩ := hended
  cases h with
  | «open» hloads hwaits => exact absurd (hat.unique hwaits).2 (by simp)
  | @closed record hrecord hset hends hthread =>
    have hreply : record.reply = reply := by
      rcases hthread with ⟨other, hwaits⟩ | ⟨other, hother⟩
      · exact absurd (hat.unique hwaits).2 (by simp)
      · simpa using (hother.unique hat).2
    exact ⟨hreply ▸ hends, record, hrecord, hset, hs.decided hrecord hset, hreply⟩

/-- A thread that waits after its turn has joined the load of the one loader of the record. -/
theorem Orderly.shares_of_join (hs : Orderly s) {source : Source} {i : Nat}
    (hstep : s.step (.turn t source) = some s') (hwaits : s'.At t file (.waiting i)) :
    ∃ loader, (∀ u, s'.Loads u i ↔ u = loader) ∧ Shares s' t loader i := by
  have hs' := hs.step hstep
  have hjoined : ∃ loader, s'.Loads loader i := by
    cases turn_of_advance hstep
    case join other j hat hget hlookup =>
      have hmoved : Moved s _ t other .entering (.waiting j) := .of_setPhase hat rfl
      have hnow := State.at_setPhase_self hat rfl (.waiting j)
      obtain rfl : j = i := by simpa using (hnow.unique hwaits).2
      obtain ⟨loader, hlists⟩ := hs.lists_of_lookup hlookup
      exact ⟨loader, (hmoved.loads_same rfl).mpr hlists.loads⟩
    all_goals
      rcases (State.at_setPhase ‹s.At _ _ _› rfl _).mp hwaits with ⟨-, -, hphase⟩ | ⟨hne, -⟩
      · simp at hphase
      · exact absurd rfl hne
  obtain ⟨loader, hloads⟩ := hjoined
  refine ⟨loader, fun u => ⟨fun hu => hs'.sole hu hloads, ?_⟩, .open hloads hwaits⟩
  rintro rfl
  exact hloads

/-! ## The cache and the table -/

/-- A step of a load that ends in a failure leaves the cache as it is. -/
theorem cache_of_ends_error {source : Source} {more : List Event} {later : State} {e : Failure}
    (hstep : s.step (.turn t source) = some s') (hrun : s'.run more = some later)
    (hends : later.Ends t (.error e)) : s'.cache = s.cache := by
  have hunsure : ∀ {file phase loaded}, s'.At t file phase → phase.value? ≠ some loaded := by
    intro file phase loaded hat hvalue
    obtain ⟨last, hlast, hsame⟩ := hat.value_run hvalue hrun
    obtain ⟨other, hother⟩ := hends
    rw [(hlast.unique hother).2] at hsame
    simp [Phase.value?] at hsame
  cases turn_of_advance hstep with
  | hit | join | register | wake | fail | retire | signal => rfl
  | parse hat hsource =>
    exact absurd rfl (hunsure (State.at_setPhase_self hat rfl _))
  | publish hat =>
    exact absurd rfl (hunsure (State.at_setPhase_self hat rfl _))

/-- The entry that a loader is about to take out is in the table. -/
theorem Orderly.mem_pending (hs : Orderly s) {i : Nat} {reply : Reply}
    (hat : s.At t file (.retiring i reply)) : (file.identity, i) ∈ s.pending :=
  hs.listed.mpr ⟨t, hat.lists_iff.mpr ⟨rfl, rfl⟩⟩

/-- An entry leaves the table when its own loader removes it, and in no other way. -/
theorem Orderly.removed_iff (hs : Orderly s) (hstep : s.step event = some s')
    {entry : Text × Nat} (hentry : entry ∈ s.pending) :
    entry ∉ s'.pending ↔ ∃ t source file reply, event = .turn t source ∧
      s.At t file (.retiring entry.2 reply) ∧ file.identity = entry.1 := by
  constructor
  · intro hgone
    rcases State.step_cases hstep with ⟨file, -, rfl⟩ | ⟨t, source, rfl, hturn⟩ | ⟨-, rfl⟩
    · exact absurd hentry hgone
    · cases hturn with
      | hit | join | wake | parse | fail | publish | signal => exact absurd hentry hgone
      | register => exact absurd (List.mem_append_left _ hentry) hgone
      | @retire file i reply hat =>
        have hidentity : file.identity = entry.1 := by
          by_contra hne
          refine hgone (List.mem_filter.mpr ⟨hentry, ?_⟩)
          rw [bne_iff_ne]
          exact Ne.symm hne
        have hsame : i = entry.2 := hs.entry_unique (hs.mem_pending hat) (hidentity ▸ hentry)
        exact ⟨t, source, file, reply, rfl, hsame ▸ hat, hidentity⟩
    · exact absurd hentry hgone
  · rintro ⟨t, source, file, reply, rfl, hat, hidentity⟩ hleft
    cases turn_of_advance hstep
    case retire other i answer hother =>
      obtain ⟨rfl, -⟩ := hat.unique hother
      have hne := (List.mem_filter.mp hleft).2
      simp [hidentity] at hne
    all_goals exact absurd (hat.unique ‹_›).2 (by simp)

/-- The record of an entry in the table is not signalled. -/
theorem Orderly.unsignalled_of_mem (hs : Orderly s) {entry : Text × Nat}
    (hentry : entry ∈ s.pending) :
    ∃ record, s.records[entry.2]? = some record ∧ record.signalled = false := by
  obtain ⟨t, hlists⟩ := hs.listed.mp hentry
  exact Option.map_eq_some_iff.mp (hs.loaded.mp ⟨t, hlists.loads⟩)

/-- If every thread is yet to begin or has ended, the table is empty. -/
theorem Orderly.pending_eq_nil (hs : Orderly s)
    (hidle : ∀ t file phase, s.At t file phase →
      phase = .entering ∨ ∃ reply, phase = .finished reply) : s.pending = [] := by
  rw [List.eq_nil_iff_forall_not_mem]
  intro entry hentry
  obtain ⟨t, file, phase, hat, hlisted, -⟩ := hs.listed.mp hentry
  rcases hidle t file phase hat with rfl | ⟨reply, rfl⟩
  · simp [Phase.listed?] at hlisted
  · simp [Phase.listed?] at hlisted

end

/-! ## Every run -/

/-- Whatever is read and whenever the cache is emptied: a record that is not signalled has exactly
one loader at work; a signalled record has an effect or a failure, and not both; a thread that joins
a load ends with what the loader ends with, which is what the record has; a load that fails leaves
the cache as it is; a loader that is about to remove its entry from the table has one there, and an
entry is removed by its own loader only, and before the record is signalled; and when nobody is in
the middle of a load the table is empty. -/
theorem waiters_get_outcome {files : List SourceFile} {events : List Event} {s : State}
    (hrun : (State.start files).run events = some s) :
    (∀ (i : Nat) (record : Record), s.records[i]? = some record → record.signalled = false →
      ∃! t, s.Loads t i) ∧
    (∀ (i : Nat) (record : Record), s.records[i]? = some record → record.signalled = true →
      (record.effect.isSome ^^ record.error.isSome) = true) ∧
    (∀ t file i source joined, s.step (.turn t source) = some joined →
      joined.At t file (.waiting i) →
        ∃ loader, (∀ u, joined.Loads u i ↔ u = loader) ∧
          ∀ more later reply, joined.run more = some later → later.Ends t reply →
            later.Ends loader reply ∧
            ∃ record, later.records[i]? = some record ∧ record.signalled = true ∧
              ((∃ loaded, record.effect = some loaded ∧ record.error = none ∧
                reply = .ok (some loaded)) ∨
              (∃ e, record.effect = none ∧ record.error = some e ∧ reply = .error e))) ∧
    (∀ t source next more later e, s.step (.turn t source) = some next →
      next.run more = some later → later.Ends t (.error e) → next.cache = s.cache) ∧
    (∀ t file i reply, s.At t file (.retiring i reply) → (file.identity, i) ∈ s.pending) ∧
    (∀ event next entry, s.step event = some next → entry ∈ s.pending →
      (entry ∉ next.pending ↔ ∃ t source file reply, event = .turn t source ∧
        s.At t file (.retiring entry.2 reply) ∧ file.identity = entry.1)) ∧
    (∀ entry ∈ s.pending,
      ∃ record, s.records[entry.2]? = some record ∧ record.signalled = false) ∧
    ((∀ t file phase, s.At t file phase → phase = .entering ∨ ∃ reply, phase = .finished reply) →
      s.pending = []) := by
  have hs : Orderly s := (Orderly.start files).run hrun
  refine ⟨?_, fun i record => hs.decided, ?_, ?_, fun t file i reply => hs.mem_pending, ?_,
    fun entry => hs.unsignalled_of_mem, hs.pending_eq_nil⟩
  · intro i record hrecord hset
    obtain ⟨t, ht⟩ := hs.loaded.mpr (show s.records[i]?.map Record.signalled = some false by
      rw [hrecord, ← hset]; rfl)
    exact ⟨t, ht, fun u hu => hs.sole hu ht⟩
  · intro t file i source joined hstep hwaits
    obtain ⟨loader, hloader, hshares⟩ := hs.shares_of_join hstep hwaits
    refine ⟨loader, hloader, ?_⟩
    intro more later reply hmore hends
    have hjoined := hs.step hstep
    obtain ⟨hsame, record, hrecord, hset, hdecided, rfl⟩ :=
      (hshares.run hjoined hmore).ends (hjoined.run hmore) hends
    exact ⟨hsame, record, hrecord, hset, hdecided.reply_cases⟩
  · intro t source next more later e hstep hmore hends
    exact cache_of_ends_error hstep hmore hends
  · intro event next entry hstep hentry
    exact hs.removed_iff hstep hentry

/-- A file of a package. -/
def grainFile : SourceFile :=
  ⟨"grain".toList, "grain.glsl".toList, some "demo".toList, "/".toList⟩

/-- The failure of reading a source that is lost. -/
def lost : Failure := .effect (.general "Cannot read the source.".toList)

/-- A source that cannot be read, whatever the file is. -/
def lostSource : Source := fun _ => .error lost

/-- The loader goes through its load, with the cache emptied on the way, and the other thread looks
at the record. -/
def lostTurns : List Event :=
  [.turn 0 lostSource, .clear, .turn 0 lostSource, .turn 0 lostSource, .turn 1 lostSource]

/-- Of two threads that load the same source, which cannot be read, the second joins the first and
gets its failure. -/
theorem waiters_get_outcome_grain :
    ∃ s joined later, (State.start [grainFile, grainFile]).run [.turn 0 lostSource] = some s ∧
      s.step (.turn 1 lostSource) = some joined ∧
      joined.run lostTurns = some later ∧ later.Ends 1 (.error lost) ∧
      ∃ loader, (∀ u, joined.Loads u 0 ↔ u = loader) ∧ later.Ends loader (.error lost) := by
  refine ⟨_, _, _, rfl, rfl, rfl, ⟨grainFile, rfl⟩, ?_⟩
  have hrun : (State.start [grainFile, grainFile]).run [.turn 0 lostSource] = some _ := rfl
  obtain ⟨loader, hloader, hends⟩ :=
    (waiters_get_outcome hrun).2.2.1 1 grainFile 0 lostSource _ rfl rfl
  exact ⟨loader, hloader, (hends lostTurns _ (.error lost) rfl ⟨grainFile, rfl⟩).1⟩

end ShaderCompose.Flight
