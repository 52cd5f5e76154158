import ShaderCompose.Cache

/-!
# Loading from several threads

Threads that load sources at the same time share one cache.  A thread looks its source up and, if
nobody has loaded it or is loading it, registers a record and becomes its loader; others that come
while the record is registered wait for it.  A loader reads and parses, publishes the effect in the
cache, removes its record, and then signals the ones that wait.  Between these steps, each of which
is atomic, the threads may take turns in any order.
-/

set_option autoImplicit false

namespace ShaderCompose.Flight

/-- What a load ends with. -/
abbrev Outcome := Except Failure Loaded

/-- What a load gives back: an effect or nothing, unless it fails. -/
abbrev Reply := Except Failure (Option Loaded)

/-- A load in progress: the effect or the failure that came of it, once that is known, and whether
those who wait may look. -/
structure Record where
  identity : Text
  effect : Option Loaded
  error : Option Failure
  signalled : Bool

/-- What those who wait get from a record: its failure if it has one, and else its effect. -/
def Record.reply (r : Record) : Reply :=
  match r.error with
  | some e => .error e
  | none => .ok r.effect

/-- Where a thread is in its load; records are meant by their number. -/
inductive Phase where
  | entering
  | waiting (record : Nat)
  | reading (record : Nat)
  | publishing (record : Nat) (loaded : Loaded)
  | retiring (record : Nat) (reply : Reply)
  | signalling (record : Nat) (reply : Reply)
  | finished (reply : Reply)

/-- A thread that loads a source file. -/
structure Thread where
  file : SourceFile
  phase : Phase

/-- The state that threads share, and the threads. -/
structure State where
  cache : Cache
  /-- The registered records by identity. -/
  pending : List (Text × Nat)
  records : List Record
  threads : List Thread
  /-- The locations that were read. -/
  reads : List Text

/-- Threads about to load the given files, with nothing loaded yet. -/
def State.start (files : List SourceFile) : State :=
  ⟨.empty, [], [], files.map fun file => ⟨file, .entering⟩, []⟩

/-- What comes of reading a source: its effect, or a failure. -/
abbrev Source := SourceFile → Except Failure Effect

/-- The state with a thread in another phase. -/
def State.setPhase (s : State) (t : Nat) (phase : Phase) : State :=
  { s with threads := s.threads.modify t fun thread => { thread with phase } }

/-- The state with a record changed. -/
def State.setRecord (s : State) (i : Nat) (f : Record → Record) : State :=
  { s with records := s.records.modify i f }

/-- The next step of a thread, if it can make one. -/
def State.advance (source : Source) (t : Nat) (s : State) : Option State :=
  match s.threads[t]? with
  | none => none
  | some ⟨file, phase⟩ =>
    let identity := file.identity
    match phase with
    | .entering =>
      match s.cache.get? identity with
      | some loaded => some (s.setPhase t (.finished (.ok (some loaded))))
      | none =>
        match s.pending.lookup identity with
        | some i => some (s.setPhase t (.waiting i))
        | none =>
          let i := s.records.length
          let registered : State := { s with
            pending := s.pending ++ [(identity, i)]
            records := s.records ++ [⟨identity, none, none, false⟩] }
          some (registered.setPhase t (.reading i))
    | .waiting i =>
      match s.records[i]? with
      | some record =>
        if record.signalled then some (s.setPhase t (.finished record.reply)) else none
      | none => none
    | .reading i =>
      let noted : State := { s with reads := s.reads ++ [file.location] }
      match source file with
      | .ok effect =>
        let loaded : Loaded := ⟨effect, noted.cache.parses⟩
        let parsed : State := { noted with cache := noted.cache.countParse }
        let known := parsed.setRecord i fun r => { r with effect := some loaded }
        some (known.setPhase t (.publishing i loaded))
      | .error e =>
        let failed := noted.setRecord i fun r => { r with error := some e }
        some (failed.setPhase t (.retiring i (.error e)))
    | .publishing i loaded =>
      let published : State := { s with cache := s.cache.publish identity loaded }
      some (published.setPhase t (.retiring i (.ok (some loaded))))
    | .retiring i reply =>
      let retired : State := { s with pending := s.pending.filter fun entry => entry.1 != identity }
      some (retired.setPhase t (.signalling i reply))
    | .signalling i reply =>
      some ((s.setRecord i fun r => { r with signalled := true }).setPhase t (.finished reply))
    | .finished _ => none

/-- The state with the cache emptied. -/
def State.clear (s : State) : State := { s with cache := s.cache.clear }

/-- One turn of every thread in order; a thread that cannot make a step passes. -/
def State.round (source : Source) (s : State) : State :=
  (List.range s.threads.length).foldl (fun s t => (s.advance source t).getD s) s

/-- A number of rounds. -/
def State.rounds (source : Source) : Nat → State → State
  | 0, s => s
  | n + 1, s => rounds source n (s.round source)

/-- The most rounds a load takes: a loader makes five steps, and those who wait one more. -/
def roundBound : Nat := 7

/-- What comes of reading a source of a registry. -/
def sourceOf (r : Registry) : Source := fun file =>
  (r.read file).map fun text => Effect.parse text file.identity (some file)

/-- Loads files by one thread each, in rounds. -/
def loadAll (r : Registry) (files : List SourceFile) : State :=
  (State.start files).rounds (sourceOf r) roundBound

/-- The outcome of a thread, if it has finished with one. -/
def Thread.outcome? (t : Thread) : Option Outcome :=
  match t.phase with
  | .finished (.ok (some loaded)) => some (.ok loaded)
  | .finished (.error e) => some (.error e)
  | _ => none

/-- The first of some files with the identity of the given one; they share one load. -/
def firstSharing (files : List SourceFile) (file : SourceFile) : Nat :=
  files.findIdx fun other => other.identity == file.identity

/-- The number of the record that a thread takes part in. -/
def Phase.record? : Phase → Option Nat
  | .waiting i | .reading i | .publishing i _ | .retiring i _ | .signalling i _ => some i
  | _ => none

end ShaderCompose.Flight
