import ShaderCompose.Flight
import ShaderCompose.Proofs.Lists

/-!
# Runs of threads that load

At any moment a further thread may call for a source, a thread may make its next step, or the cache
may be emptied.  A run is a list of such events, and it leaves open which thread comes next and what
each single read gives.  `Turn` says once what a step of a thread can do: one rule for each atomic
block of a load, with what the block changes.  Everything about runs is derived from these rules.
-/

set_option autoImplicit false

namespace ShaderCompose.Flight

/-! ## Events and runs -/

/-- What happens next: a further thread calls for a source, a thread makes its next step, or the
cache is emptied.  What a thread gets if it reads in this step comes with the event. -/
inductive Event where
  | call (file : SourceFile)
  | turn (thread : Nat) (source : Source)
  | clear

namespace State

/-- A further thread is about to load a file. -/
def call (s : State) (file : SourceFile) : State :=
  { s with threads := s.threads ++ [⟨file, .entering⟩] }

/-- The state after an event, if it can happen. -/
def step (s : State) : Event → Option State
  | .call file => some (s.call file)
  | .turn t source => s.advance source t
  | .clear => some s.clear

/-- The state after some events, if they can happen one after the other. -/
def run (s : State) : List Event → Option State
  | [] => some s
  | event :: rest => (s.step event).bind fun next => next.run rest

/-- A run goes by its first event and then by the others. -/
theorem run_cons {s s' : State} {event : Event} {rest : List Event} :
    s.run (event :: rest) = some s' ↔
      ∃ next, s.step event = some next ∧ next.run rest = some s' := by
  simp only [run, Option.bind_eq_some_iff]

/-- What every event of a run keeps is kept by the run. -/
theorem run_keeps {P : State → Prop} {s s' : State} {events : List Event}
    (hrun : s.run events = some s')
    (hstep : ∀ event ∈ events, ∀ a b, P a → a.step event = some b → P b) (hs : P s) : P s' := by
  induction events generalizing s with
  | nil =>
    obtain rfl : s = s' := by simpa [run] using hrun
    exact hs
  | cons event rest ih =>
    obtain ⟨next, hnext, hrest⟩ := run_cons.mp hrun
    have hkept : P next := hstep event List.mem_cons_self s next hs hnext
    exact ih hrest (fun later hlater => hstep later (List.mem_cons_of_mem _ hlater)) hkept

/-! ## Threads -/

/-- A thread loads a file and is in a phase. -/
def At (s : State) (t : Nat) (file : SourceFile) (phase : Phase) : Prop :=
  s.threads[t]? = some ⟨file, phase⟩

/-- A thread loads one file and is in one phase. -/
theorem At.unique {s : State} {t : Nat} {file other : SourceFile} {phase phase' : Phase}
    (h : s.At t file phase) (h' : s.At t other phase') : file = other ∧ phase = phase' := by
  have hsame : (⟨file, phase⟩ : Thread) = ⟨other, phase'⟩ := Option.some.inj (h.symm.trans h')
  exact ⟨congrArg Thread.file hsame, congrArg Thread.phase hsame⟩

/-- The phase of a thread does not matter to the records. -/
@[simp]
theorem records_setPhase (s : State) (t : Nat) (phase : Phase) :
    (s.setPhase t phase).records = s.records := rfl

/-- Changing a record changes this one only. -/
theorem getElem?_setRecord (s : State) (i j : Nat) (f : Record → Record) :
    (s.setRecord i f).records[j]? = if i = j then s.records[j]?.map f else s.records[j]? := by
  simp only [setRecord, List.getElem?_modify]
  split <;> simp

/-- A thread that goes on to another phase is in that phase, and the others stay where they are. -/
theorem at_setPhase {s base : State} {t : Nat} {file : SourceFile} {old : Phase}
    (h : s.At t file old) (hbase : base.threads = s.threads) (new : Phase) {u : Nat}
    {other : SourceFile} {phase : Phase} :
    (base.setPhase t new).At u other phase ↔
      (u = t ∧ other = file ∧ phase = new) ∨ (u ≠ t ∧ s.At u other phase) := by
  unfold At at h ⊢
  simp only [setPhase, hbase, List.getElem?_modify]
  by_cases hu : t = u
  · subst hu
    simp only [h, if_true, Option.map_eq_map, Option.map_some, Option.some.injEq, Thread.mk.injEq,
      ne_eq, not_true, false_and, or_false, true_and]
    exact and_congr eq_comm eq_comm
  · have hne : u ≠ t := Ne.symm hu
    simp [hu, hne]

/-- A thread that is put into a phase is in this phase, with its file. -/
theorem at_setPhase_self {s base : State} {t : Nat} {file : SourceFile} {old : Phase}
    (h : s.At t file old) (hbase : base.threads = s.threads) (new : Phase) :
    (base.setPhase t new).At t file new :=
  (at_setPhase h hbase new).mpr (Or.inl ⟨rfl, rfl, rfl⟩)

/-- After a further call, the threads are those from before and the new one, which is about to
load. -/
theorem at_call {s : State} {file other : SourceFile} {u : Nat} {phase : Phase} :
    (s.call file).At u other phase ↔
      (u = s.threads.length ∧ other = file ∧ phase = .entering) ∨ s.At u other phase := by
  unfold At call
  simp only [getElem?_snoc]
  by_cases hu : u = s.threads.length
  · have hnone : s.threads[u]? = none := List.getElem?_eq_none (Nat.le_of_eq hu.symm)
    simp only [hu, if_true, Option.some.injEq, Thread.mk.injEq, true_and]
    rw [hu] at hnone
    simp only [hnone, reduceCtorEq, or_false]
    exact and_congr eq_comm eq_comm
  · simp [hu]

/-! ## The blocks of a load -/

/-- A new record is registered for an identity. -/
def register (s : State) (identity : Text) : State :=
  { s with
    pending := s.pending ++ [(identity, s.records.length)]
    records := s.records ++ [⟨identity, none, none, false⟩] }

/-- The location of a file is noted as read. -/
def noteRead (s : State) (file : SourceFile) : State :=
  { s with reads := s.reads ++ [file.location] }

/-- A source was read and parsed, and the record has the effect. -/
def parsed (s : State) (file : SourceFile) (i : Nat) (loaded : Loaded) : State :=
  { s.noteRead file with cache := s.cache.countParse }.setRecord i
    fun record => { record with effect := some loaded }

/-- A source was read in vain, and the record has the failure. -/
def failed (s : State) (file : SourceFile) (i : Nat) (e : Failure) : State :=
  (s.noteRead file).setRecord i fun record => { record with error := some e }

/-- An effect is put into the cache, where it can be found from now on. -/
def publish (s : State) (identity : Text) (loaded : Loaded) : State :=
  { s with cache := s.cache.publish identity loaded }

/-- No record is registered for an identity any more. -/
def retire (s : State) (identity : Text) : State :=
  { s with pending := s.pending.filter fun entry => entry.1 != identity }

/-- Those who wait for a record may look. -/
def signal (s : State) (i : Nat) : State :=
  s.setRecord i fun record => { record with signalled := true }

end State

/-- A step of a thread, one rule for each block of a load and each way that it can go. -/
inductive Turn (s : State) (t : Nat) (source : Source) : State → Prop
  | hit {file : SourceFile} {loaded : Loaded} :
      s.At t file .entering → s.cache.get? file.identity = some loaded →
        Turn s t source (s.setPhase t (.finished (.ok (some loaded))))
  | join {file : SourceFile} {i : Nat} :
      s.At t file .entering → s.cache.get? file.identity = none →
      s.pending.lookup file.identity = some i →
        Turn s t source (s.setPhase t (.waiting i))
  | register {file : SourceFile} :
      s.At t file .entering → s.cache.get? file.identity = none →
      s.pending.lookup file.identity = none →
        Turn s t source ((s.register file.identity).setPhase t (.reading s.records.length))
  | wake {file : SourceFile} {i : Nat} {record : Record} :
      s.At t file (.waiting i) → s.records[i]? = some record → record.signalled = true →
        Turn s t source (s.setPhase t (.finished record.reply))
  | parse {file : SourceFile} {i : Nat} {effect : Effect} :
      s.At t file (.reading i) → source file = .ok effect →
        Turn s t source ((s.parsed file i ⟨effect, s.cache.parses⟩).setPhase t
          (.publishing i ⟨effect, s.cache.parses⟩))
  | fail {file : SourceFile} {i : Nat} {e : Failure} :
      s.At t file (.reading i) → source file = .error e →
        Turn s t source ((s.failed file i e).setPhase t (.retiring i (.error e)))
  | publish {file : SourceFile} {i : Nat} {loaded : Loaded} :
      s.At t file (.publishing i loaded) →
        Turn s t source ((s.publish file.identity loaded).setPhase t
          (.retiring i (.ok (some loaded))))
  | retire {file : SourceFile} {i : Nat} {reply : Reply} :
      s.At t file (.retiring i reply) →
        Turn s t source ((s.retire file.identity).setPhase t (.signalling i reply))
  | signal {file : SourceFile} {i : Nat} {reply : Reply} :
      s.At t file (.signalling i reply) →
        Turn s t source ((s.signal i).setPhase t (.finished reply))

/-- What a thread does in its next step is a turn. -/
theorem turn_of_advance {source : Source} {t : Nat} {s s' : State}
    (h : s.advance source t = some s') : Turn s t source s' := by
  unfold State.advance at h
  cases hthread : s.threads[t]? with
  | none => simp [hthread] at h
  | some thread =>
    obtain ⟨file, phase⟩ := thread
    have hat : s.At t file phase := hthread
    simp only [hthread] at h
    -- each phase makes its own tests, and each outcome of these is one rule
    cases phase with
    | entering =>
      cases hget : s.cache.get? file.identity with
      | some loaded =>
        simp only [hget, Option.some.injEq] at h
        exact h ▸ .hit hat hget
      | none =>
        cases hlookup : s.pending.lookup file.identity with
        | some i =>
          simp only [hget, hlookup, Option.some.injEq] at h
          exact h ▸ .join hat hget hlookup
        | none =>
          simp only [hget, hlookup, Option.some.injEq] at h
          exact h ▸ .register hat hget hlookup
    | waiting i =>
      cases hrecord : s.records[i]? with
      | none => simp [hrecord] at h
      | some record =>
        simp only [hrecord] at h
        by_cases hsignalled : record.signalled = true
        · simp only [hsignalled, if_true, Option.some.injEq] at h
          exact h ▸ .wake hat hrecord hsignalled
        · simp [hsignalled] at h
    | reading i =>
      cases hsource : source file with
      | ok effect =>
        simp only [hsource, Option.some.injEq] at h
        exact h ▸ .parse hat hsource
      | error e =>
        simp only [hsource, Option.some.injEq] at h
        exact h ▸ .fail hat hsource
    | publishing i loaded =>
      simp only [Option.some.injEq] at h
      exact h ▸ .publish hat
    | retiring i reply =>
      simp only [Option.some.injEq] at h
      exact h ▸ .retire hat
    | signalling i reply =>
      simp only [Option.some.injEq] at h
      exact h ▸ .signal hat
    | finished reply => simp at h

/-- An event is a call, the emptying of the cache, or a step of a thread that goes by the rules. -/
theorem State.step_cases {s s' : State} {event : Event} (h : s.step event = some s') :
    (∃ file, event = .call file ∧ s' = s.call file) ∨
      (∃ t source, event = .turn t source ∧ Turn s t source s') ∨
      (event = .clear ∧ s' = s.clear) := by
  cases event with
  | call file => exact Or.inl ⟨file, rfl, (Option.some.inj h).symm⟩
  | turn t source => exact Or.inr (Or.inl ⟨t, source, rfl, turn_of_advance h⟩)
  | clear => exact Or.inr (Or.inr ⟨rfl, (Option.some.inj h).symm⟩)

end ShaderCompose.Flight
