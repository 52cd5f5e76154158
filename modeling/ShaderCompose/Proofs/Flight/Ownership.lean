import Mathlib.Data.List.Nodup
import ShaderCompose.Proofs.Flight.Turns

/-!
# Every record has its loader

A record is registered by one thread, its loader, and this thread alone works on it: it notes what
came of reading, takes the record out of the table, and signals it.  `Orderly` says so about a
state, and every event keeps it, whatever is read and whenever the cache is emptied.  It follows
that those who wait for a record get what its loader gets, and that a load which fails leaves
nothing behind.
-/

set_option autoImplicit false

namespace ShaderCompose.Flight

/-! ## Loaders and their records -/

/-- The record that a thread has in the table. -/
def Phase.listed? : Phase → Option Nat
  | .reading i | .publishing i _ | .retiring i _ => some i
  | _ => none

/-- The record that a thread is the loader of: it has registered the record and has not signalled it
yet. -/
def Phase.loading? : Phase → Option Nat
  | .reading i | .publishing i _ | .retiring i _ | .signalling i _ => some i
  | _ => none

/-- A thread that has an entry in the table is the loader of its record. -/
theorem Phase.loading?_of_listed? {phase : Phase} {i : Nat} (h : phase.listed? = some i) :
    phase.loading? = some i := by
  cases phase <;> simp_all [listed?, loading?]

/-- Either the effect or the failure of a record is known, and not both. -/
def Record.Decided (record : Record) : Prop := (record.effect.isSome ^^ record.error.isSome) = true

/-- A decided record never replies with nothing. -/
theorem Record.reply_ne_none {record : Record} (h : record.Decided) : record.reply ≠ .ok none := by
  obtain ⟨identity, effect, error, signalled⟩ := record
  cases effect <;> cases error <;> simp_all [Decided, reply]

/-- What a phase knows of the load is what its record says. -/
def Phase.Fits (record : Record) : Phase → Prop
  | .reading _ => record.effect = none ∧ record.error = none
  | .publishing _ loaded => record.effect = some loaded ∧ record.error = none
  | .retiring _ reply | .signalling _ reply => record.reply = reply ∧ record.Decided
  | _ => True

/-- A phase is sound for a file: the record that it takes part in is there for the same identity and
fits, and a load does not end with nothing. -/
structure Phase.Sound (records : List Record) (file : SourceFile) (phase : Phase) : Prop where
  recorded {i : Nat} : phase.record? = some i →
    ∃ record, records[i]? = some record ∧ record.identity = file.identity ∧ phase.Fits record
  answered {reply : Reply} : phase = .finished reply → reply ≠ .ok none

/-- The record that a thread is the loader of is the one that it takes part in. -/
theorem Phase.record?_of_loading? {phase : Phase} {i : Nat} (h : phase.loading? = some i) :
    phase.record? = some i := by
  cases phase <;> simp_all [record?, loading?]

/-- A phase that does not load a record is sound still when something is noted in the record. -/
theorem Phase.Sound.revise {records later : List Record} {file : SourceFile} {phase : Phase}
    (h : phase.Sound records file) {i : Nat} {f : Record → Record}
    (hloading : phase.loading? ≠ some i)
    (hidentity : ∀ record, (f record).identity = record.identity)
    (hlater : ∀ j, later[j]? = if i = j then records[j]?.map f else records[j]?) :
    phase.Sound later file := by
  refine ⟨?_, h.answered⟩
  intro j hj
  obtain ⟨record, hrecord, hsame, hfits⟩ := h.recorded hj
  rw [hlater]
  by_cases hij : i = j
  · -- only a thread that waits takes part in a record without loading it, and any record fits it
    subst hij
    refine ⟨f record, by rw [if_pos rfl, hrecord]; rfl, (hidentity record).trans hsame, ?_⟩
    cases phase <;> simp_all [record?, loading?, Fits]
  · exact ⟨record, by rw [if_neg hij, hrecord], hsame, hfits⟩

namespace State

/-- A thread has an entry in the table. -/
def Lists (s : State) (t : Nat) (entry : Text × Nat) : Prop :=
  ∃ file phase, s.At t file phase ∧ phase.listed? = some entry.2 ∧ file.identity = entry.1

/-- A thread is the loader of a record. -/
def Loads (s : State) (t i : Nat) : Prop :=
  ∃ file phase, s.At t file phase ∧ phase.loading? = some i

/-- A thread with an entry in the table is the loader of the record that is entered there. -/
theorem Lists.loads {s : State} {t : Nat} {entry : Text × Nat} (h : s.Lists t entry) :
    s.Loads t entry.2 := by
  obtain ⟨file, phase, hat, hlisted, -⟩ := h
  exact ⟨file, phase, hat, Phase.loading?_of_listed? hlisted⟩

end State

/-- Records and threads belong together: the table has the entries of the threads that are between
registering and removing them, one for each identity; a record has a loader, and only one, until it
is signalled, and is decided from then on. -/
structure Orderly (s : State) : Prop where
  listed {entry : Text × Nat} : entry ∈ s.pending ↔ ∃ t, s.Lists t entry
  distinct : (s.pending.map Prod.fst).Nodup
  sole {t u i : Nat} : s.Loads t i → s.Loads u i → t = u
  loaded {i : Nat} : (∃ t, s.Loads t i) ↔ s.records[i]?.map Record.signalled = some false
  decided {i : Nat} {record : Record} :
    s.records[i]? = some record → record.signalled = true → record.Decided
  sound {t : Nat} {file : SourceFile} {phase : Phase} :
    s.At t file phase → phase.Sound s.records file

/-- At the start all threads are about to load. -/
theorem State.entering_of_start {files : List SourceFile} {t : Nat} {file : SourceFile}
    {phase : Phase} (hat : (State.start files).At t file phase) : phase = .entering := by
  unfold State.At State.start at hat
  rw [List.getElem?_map, Option.map_eq_some_iff] at hat
  obtain ⟨other, -, hthread⟩ := hat
  exact (congrArg Thread.phase hthread).symm

/-- Nothing is registered at the start, so the start is orderly. -/
theorem Orderly.start (files : List SourceFile) : Orderly (State.start files) := by
  have hidle : ∀ {t i}, ¬ (State.start files).Loads t i := by
    rintro t i ⟨file, phase, hat, hloading⟩
    simp [State.entering_of_start hat, Phase.loading?] at hloading
  constructor
  case listed =>
    intro entry
    constructor
    · intro hmem
      simp [State.start] at hmem
    · rintro ⟨t, ht⟩
      exact absurd ht.loads hidle
  case distinct => simp [State.start]
  case sole => intro t u i ht; exact absurd ht hidle
  case loaded =>
    intro i
    constructor
    · rintro ⟨t, ht⟩
      exact absurd ht hidle
    · intro hrecord
      simp [State.start] at hrecord
  case decided => intro i record hrecord; simp [State.start] at hrecord
  case sound =>
    intro t file phase hat
    rw [State.entering_of_start hat]
    constructor <;> simp [Phase.record?]

/-! ## What a step keeps -/

/-- A step takes a thread from one phase to another, and the other threads stay where they are. -/
structure Moved (s s' : State) (t : Nat) (file : SourceFile) (old new : Phase) : Prop where
  before : s.At t file old
  after {u : Nat} {other : SourceFile} {phase : Phase} :
    s'.At u other phase ↔ (u = t ∧ other = file ∧ phase = new) ∨ (u ≠ t ∧ s.At u other phase)

section

variable {s s' : State} {t : Nat} {file : SourceFile} {old new : Phase}

/-- Putting one thread into another phase moves this thread and no other. -/
theorem Moved.of_setPhase {base : State} (hat : s.At t file old)
    (hbase : base.threads = s.threads) : Moved s (base.setPhase t new) t file old new :=
  ⟨hat, State.at_setPhase hat hbase new⟩

/-- After a move, the thread that moved has an entry as its new phase says, and the others have what
they had. -/
theorem Moved.lists_iff (hmoved : Moved s s' t file old new) {u : Nat} {entry : Text × Nat} :
    s'.Lists u entry ↔ (u = t ∧ new.listed? = some entry.2 ∧ file.identity = entry.1) ∨
      (u ≠ t ∧ s.Lists u entry) := by
  constructor
  · rintro ⟨other, phase, hother, hlisted, hidentity⟩
    rcases hmoved.after.mp hother with ⟨rfl, rfl, rfl⟩ | ⟨hu, hother⟩
    · exact Or.inl ⟨rfl, hlisted, hidentity⟩
    · exact Or.inr ⟨hu, other, phase, hother, hlisted, hidentity⟩
  · rintro (⟨rfl, hlisted, hidentity⟩ | ⟨hu, other, phase, hother, hlisted, hidentity⟩)
    · exact ⟨file, new, hmoved.after.mpr (Or.inl ⟨rfl, rfl, rfl⟩), hlisted, hidentity⟩
    · exact ⟨other, phase, hmoved.after.mpr (Or.inr ⟨hu, hother⟩), hlisted, hidentity⟩

/-- After a move, the thread that moved is a loader as its new phase says, and the others are what
they were. -/
theorem Moved.loads_iff (hmoved : Moved s s' t file old new) {u i : Nat} :
    s'.Loads u i ↔ (u = t ∧ new.loading? = some i) ∨ (u ≠ t ∧ s.Loads u i) := by
  constructor
  · rintro ⟨other, phase, hother, hloading⟩
    rcases hmoved.after.mp hother with ⟨rfl, rfl, rfl⟩ | ⟨hu, hother⟩
    · exact Or.inl ⟨rfl, hloading⟩
    · exact Or.inr ⟨hu, other, phase, hother, hloading⟩
  · rintro (⟨rfl, hloading⟩ | ⟨hu, other, phase, hother, hloading⟩)
    · exact ⟨file, new, hmoved.after.mpr (Or.inl ⟨rfl, rfl, rfl⟩), hloading⟩
    · exact ⟨other, phase, hmoved.after.mpr (Or.inr ⟨hu, hother⟩), hloading⟩

/-- Whether a thread has an entry is told by its phase and its file. -/
theorem State.At.lists_iff (hat : s.At t file old) {entry : Text × Nat} :
    s.Lists t entry ↔ old.listed? = some entry.2 ∧ file.identity = entry.1 := by
  constructor
  · rintro ⟨other, phase, hother, hlisted, hidentity⟩
    obtain ⟨rfl, rfl⟩ := hat.unique hother
    exact ⟨hlisted, hidentity⟩
  · rintro ⟨hlisted, hidentity⟩
    exact ⟨file, old, hat, hlisted, hidentity⟩

/-- Whether a thread is a loader is told by its phase. -/
theorem State.At.loads_iff (hat : s.At t file old) {i : Nat} :
    s.Loads t i ↔ old.loading? = some i := by
  constructor
  · rintro ⟨other, phase, hother, hloading⟩
    obtain ⟨-, rfl⟩ := hat.unique hother
    exact hloading
  · intro hloading
    exact ⟨file, old, hat, hloading⟩

/-- A move that changes nothing about an entry leaves all entries as they are. -/
theorem Moved.lists_same (hmoved : Moved s s' t file old new)
    (hsame : new.listed? = old.listed?) {u : Nat} {entry : Text × Nat} :
    s'.Lists u entry ↔ s.Lists u entry := by
  rw [hmoved.lists_iff, hsame, ← hmoved.before.lists_iff]
  by_cases hu : u = t
  · simp [hu]
  · simp [hu]

/-- A move that changes nothing about a load leaves all loaders as they are. -/
theorem Moved.loads_same (hmoved : Moved s s' t file old new)
    (hsame : new.loading? = old.loading?) {u i : Nat} : s'.Loads u i ↔ s.Loads u i := by
  rw [hmoved.loads_iff, hsame, ← hmoved.before.loads_iff]
  by_cases hu : u = t
  · simp [hu]
  · simp [hu]

/-- What keeps the table, the loader of each record and the signals keeps the order. -/
theorem Orderly.keep (hs : Orderly s) (hpending : s'.pending = s.pending)
    (hlists : ∀ {u entry}, s'.Lists u entry ↔ s.Lists u entry)
    (hloads : ∀ {u i}, s'.Loads u i ↔ s.Loads u i)
    (hsignals : ∀ j : Nat,
      s'.records[j]?.map Record.signalled = s.records[j]?.map Record.signalled)
    (hdecided : ∀ {j : Nat} {record : Record}, s'.records[j]? = some record →
      record.signalled = true → record.Decided)
    (hsound : ∀ {u other phase}, s'.At u other phase → phase.Sound s'.records other) :
    Orderly s' := by
  constructor
  case listed =>
    intro entry
    rw [hpending, hs.listed]
    exact exists_congr fun u => hlists.symm
  case distinct => rw [hpending]; exact hs.distinct
  case sole =>
    intro u v i hu hv
    exact hs.sole (hloads.mp hu) (hloads.mp hv)
  case loaded =>
    intro i
    rw [hsignals, ← hs.loaded]
    exact exists_congr fun u => hloads
  case decided => exact hdecided
  case sound => exact hsound

/-- A thread without a record of its own goes on to another such phase. -/
theorem Orderly.idle (hs : Orderly s) (hmoved : Moved s s' t file old new)
    (hold : old.loading? = none) (hnew : new.loading? = none) (hpending : s'.pending = s.pending)
    (hrecords : s'.records = s.records) (hsound : new.Sound s.records file) : Orderly s' := by
  have hunlisted : ∀ {phase : Phase}, phase.loading? = none → phase.listed? = none := by
    intro phase hnone
    cases hlisted : phase.listed? with
    | none => rfl
    | some i => simp [Phase.loading?_of_listed? hlisted] at hnone
  refine hs.keep hpending (hmoved.lists_same ((hunlisted hnew).trans (hunlisted hold).symm))
    (hmoved.loads_same (hnew.trans hold.symm)) (fun j => by rw [hrecords]) ?_ ?_
  · rw [hrecords]
    exact hs.decided
  · intro u other phase hother
    rw [hrecords]
    rcases hmoved.after.mp hother with ⟨-, rfl, rfl⟩ | ⟨-, hother⟩
    · exact hsound
    · exact hs.sound hother

/-- A loader notes something in its record, which fits its next phase. -/
theorem Orderly.note (hs : Orderly s) (hmoved : Moved s s' t file old new)
    {i : Nat} (hold : old.listed? = some i) (hnew : new.listed? = some i)
    {f : Record → Record} (hpending : s'.pending = s.pending)
    (hrecords : ∀ j, s'.records[j]? = if i = j then s.records[j]?.map f else s.records[j]?)
    (hidentity : ∀ record, (f record).identity = record.identity)
    (hsignalled : ∀ record, (f record).signalled = record.signalled)
    (hfits : ∀ record, old.Fits record → new.Fits (f record)) : Orderly s' := by
  have holdLoading := Phase.loading?_of_listed? hold
  have hnewLoading := Phase.loading?_of_listed? hnew
  have hown : s.Loads t i := ⟨file, old, hmoved.before, holdLoading⟩
  have hunset : s.records[i]?.map Record.signalled = some false := hs.loaded.mp ⟨t, hown⟩
  refine hs.keep hpending (hmoved.lists_same (hnew.trans hold.symm))
    (hmoved.loads_same (hnewLoading.trans holdLoading.symm)) ?_ ?_ ?_
  · intro j
    rw [hrecords]
    by_cases hj : i = j
    · rw [if_pos hj, Option.map_map]
      exact Option.map_congr fun record _ => hsignalled record
    · rw [if_neg hj]
  · intro j record hrecord hset
    -- a record that is noted in is not signalled, and the others are as before
    have hne : i ≠ j := by
      rintro rfl
      rw [hrecords, if_pos rfl, Option.map_eq_some_iff] at hrecord
      obtain ⟨before, hbefore, rfl⟩ := hrecord
      rw [hsignalled] at hset
      simp [hbefore, hset] at hunset
    rw [hrecords, if_neg hne] at hrecord
    exact hs.decided hrecord hset
  · intro u other phase hother
    rcases hmoved.after.mp hother with ⟨-, rfl, rfl⟩ | ⟨hu, hother⟩
    · obtain ⟨record, hrecord, hsame, hfit⟩ :=
        (hs.sound hmoved.before).recorded (Phase.record?_of_loading? holdLoading)
      refine ⟨?_, ?_⟩
      · intro j hj
        obtain rfl : i = j :=
          Option.some.inj ((Phase.record?_of_loading? hnewLoading).symm.trans hj)
        exact ⟨f record, by rw [hrecords, if_pos rfl, hrecord]; rfl,
          (hidentity record).trans hsame, hfits record hfit⟩
      · rintro reply rfl
        simp [Phase.listed?] at hnew
    · refine (hs.sound hother).revise ?_ hidentity hrecords
      intro hloading
      exact hu (hs.sole ⟨other, phase, hother, hloading⟩ hown)

/-- An identity that is not found in the table is not in it. -/
theorem State.notMem_of_lookup {identity : Text} (hlookup : s.pending.lookup identity = none)
    {entry : Text × Nat} (hentry : entry ∈ s.pending) : entry.1 ≠ identity := by
  intro heq
  have hne := List.lookup_eq_none_iff.mp hlookup entry hentry
  simp [heq] at hne

/-- A thread registers a record for an identity that has none. -/
theorem Orderly.register (hs : Orderly s)
    (hmoved : Moved s s' t file .entering (.reading s.records.length))
    (hlookup : s.pending.lookup file.identity = none)
    (hpending : s'.pending = s.pending ++ [(file.identity, s.records.length)])
    (hrecords : s'.records = s.records ++ [⟨file.identity, none, none, false⟩]) : Orderly s' := by
  have hfresh : file.identity ∉ s.pending.map Prod.fst := by
    intro hmem
    obtain ⟨entry, hentry, hkey⟩ := List.mem_map.mp hmem
    exact State.notMem_of_lookup hlookup hentry hkey
  -- the thread had no record before
  have hunlisted : ∀ {entry}, ¬ s.Lists t entry := by simp [hmoved.before.lists_iff, Phase.listed?]
  have hidle : ∀ {i}, ¬ s.Loads t i := by simp [hmoved.before.loads_iff, Phase.loading?]
  -- the number of the new record is not in use
  have hbelow : ∀ {u i}, s.Loads u i → i ≠ s.records.length := by
    intro u i hu heq
    have hunset := hs.loaded.mp ⟨u, hu⟩
    rw [heq, List.getElem?_eq_none (Nat.le_refl _)] at hunset
    simp at hunset
  constructor
  case listed =>
    rintro ⟨identity, i⟩
    rw [hpending, List.mem_append, List.mem_singleton, hs.listed, or_comm]
    simp only [hmoved.lists_iff, Phase.listed?, exists_or, exists_eq_left, Option.some.injEq]
    refine or_congr ?_ (exists_congr fun u => ?_)
    · rw [Prod.mk.injEq, and_comm]
      exact and_congr eq_comm eq_comm
    · exact ⟨fun hu => ⟨fun heq => hunlisted (heq ▸ hu), hu⟩, And.right⟩
  case distinct =>
    rw [hpending, List.map_append]
    exact hs.distinct.append (List.nodup_singleton _) (List.disjoint_singleton.mpr hfresh)
  case sole =>
    intro u v i hu hv
    rw [hmoved.loads_iff, Phase.loading?, Option.some.injEq] at hu hv
    rcases hu with ⟨rfl, rfl⟩ | ⟨-, hu⟩ <;> rcases hv with ⟨rfl, hi⟩ | ⟨-, hv⟩
    · rfl
    · exact absurd rfl (hbelow hv)
    · exact absurd hi.symm (hbelow hu)
    · exact hs.sole hu hv
  case loaded =>
    intro i
    rw [hrecords, getElem?_snoc]
    simp only [hmoved.loads_iff, Phase.loading?, Option.some.injEq, exists_or, exists_eq_left]
    by_cases hi : i = s.records.length
    · simp [hi]
    · rw [if_neg hi, ← hs.loaded]
      constructor
      · rintro (heq | ⟨u, -, hu⟩)
        · exact absurd heq.symm hi
        · exact ⟨u, hu⟩
      · rintro ⟨u, hu⟩
        exact Or.inr ⟨u, fun heq => hidle (heq ▸ hu), hu⟩
  case decided =>
    intro i record hrecord hset
    rw [hrecords, getElem?_snoc] at hrecord
    by_cases hi : i = s.records.length
    · rw [if_pos hi, Option.some.injEq] at hrecord
      simp [← hrecord] at hset
    · rw [if_neg hi] at hrecord
      exact hs.decided hrecord hset
  case sound =>
    intro u other phase hother
    rcases hmoved.after.mp hother with ⟨-, rfl, rfl⟩ | ⟨-, hother⟩
    · refine ⟨?_, by simp⟩
      intro i hi
      obtain rfl : s.records.length = i := by simpa [Phase.record?] using hi
      exact ⟨⟨other.identity, none, none, false⟩, by simp [hrecords], rfl, rfl, rfl⟩
    · refine ⟨?_, (hs.sound hother).answered⟩
      intro i hi
      obtain ⟨record, hrecord, hidentity, hfits⟩ := (hs.sound hother).recorded hi
      refine ⟨record, ?_, hidentity, hfits⟩
      rw [hrecords, List.getElem?_append_left (List.getElem?_eq_some_iff.mp hrecord).1]
      exact hrecord

/-- An entry that is found in the table belongs to a thread. -/
theorem Orderly.lists_of_lookup (hs : Orderly s) {identity : Text} {i : Nat}
    (hlookup : s.pending.lookup identity = some i) : ∃ t, s.Lists t (identity, i) := by
  obtain ⟨before, after, hsplit, -⟩ := List.lookup_eq_some_iff.mp hlookup
  have hentry : (identity, i) ∈ s.pending := by
    rw [hsplit]
    simp
  exact hs.listed.mp hentry

/-- The table has at most one entry for an identity. -/
theorem Orderly.entry_unique (hs : Orderly s) {identity : Text} {i j : Nat}
    (hi : (identity, i) ∈ s.pending) (hj : (identity, j) ∈ s.pending) : i = j := by
  have hinjective := List.inj_on_of_nodup_map hs.distinct hi hj rfl
  exact congrArg Prod.snd hinjective

/-- The state stays orderly when a loader takes its entry out of the table. -/
theorem Orderly.retire (hs : Orderly s) {i : Nat} {reply : Reply}
    (hmoved : Moved s s' t file (.retiring i reply) (.signalling i reply))
    (hpending : s'.pending = s.pending.filter fun entry => entry.1 != file.identity)
    (hrecords : s'.records = s.records) : Orderly s' := by
  have hentry : (file.identity, i) ∈ s.pending :=
    hs.listed.mpr ⟨t, hmoved.before.lists_iff.mpr ⟨rfl, rfl⟩⟩
  have hsame : (Phase.signalling i reply).loading? = (Phase.retiring i reply).loading? := rfl
  constructor
  case listed =>
    rintro ⟨identity, j⟩
    rw [hpending, List.mem_filter, hs.listed]
    simp only [hmoved.lists_iff, Phase.listed?, reduceCtorEq, false_and, and_false, false_or,
      bne_iff_ne]
    constructor
    · rintro ⟨⟨u, hu⟩, hne⟩
      refine ⟨u, ?_, hu⟩
      rintro rfl
      exact hne (hmoved.before.lists_iff.mp hu).2.symm
    · rintro ⟨u, hne, hu⟩
      refine ⟨⟨u, hu⟩, ?_⟩
      rintro rfl
      -- another entry for the identity would have the same record, and with it the same loader
      obtain rfl := hs.entry_unique hentry (hs.listed.mpr ⟨u, hu⟩)
      exact hne (hs.sole hu.loads (hmoved.before.loads_iff.mpr rfl))
  case distinct =>
    rw [hpending]
    exact hs.distinct.sublist (List.filter_sublist.map Prod.fst)
  case sole =>
    intro u v j hu hv
    exact hs.sole ((hmoved.loads_same hsame).mp hu) ((hmoved.loads_same hsame).mp hv)
  case loaded =>
    intro j
    rw [hrecords, ← hs.loaded]
    exact exists_congr fun u => hmoved.loads_same hsame
  case decided => rw [hrecords]; exact hs.decided
  case sound =>
    intro u other phase hother
    rw [hrecords]
    rcases hmoved.after.mp hother with ⟨-, rfl, rfl⟩ | ⟨-, hother⟩
    · exact ⟨(hs.sound hmoved.before).recorded, by simp⟩
    · exact hs.sound hother

/-- The state stays orderly when a loader signals its record and ends. -/
theorem Orderly.signal (hs : Orderly s) {i : Nat} {reply : Reply}
    (hmoved : Moved s s' t file (.signalling i reply) (.finished reply))
    (hpending : s'.pending = s.pending)
    (hrecords : ∀ j, s'.records[j]? = if i = j then
      s.records[j]?.map fun record => { record with signalled := true } else s.records[j]?) :
    Orderly s' := by
  have hown : s.Loads t i := hmoved.before.loads_iff.mpr rfl
  obtain ⟨record, hrecord, hidentity, hreply, hdecided⟩ := (hs.sound hmoved.before).recorded rfl
  constructor
  case listed =>
    intro entry
    rw [hpending, hs.listed]
    exact exists_congr fun u => (hmoved.lists_same rfl).symm
  case distinct => rw [hpending]; exact hs.distinct
  case sole =>
    intro u v j hu hv
    rw [hmoved.loads_iff] at hu hv
    simp only [Phase.loading?, reduceCtorEq, and_false, false_or] at hu hv
    exact hs.sole hu.2 hv.2
  case loaded =>
    intro j
    simp only [hmoved.loads_iff, Phase.loading?, reduceCtorEq, and_false, false_or, hrecords]
    -- the signalled record loses its only loader, and no other record loses one
    by_cases hj : i = j
    · subst hj
      simp only [if_true, hrecord, Option.map_some, Option.some.injEq, reduceCtorEq, iff_false]
      rintro ⟨u, hne, hu⟩
      exact hne (hs.sole hu hown)
    · rw [if_neg hj, ← hs.loaded]
      refine exists_congr fun u => ⟨And.right, fun hu => ⟨?_, hu⟩⟩
      rintro rfl
      exact hj (by simpa [Phase.loading?] using hmoved.before.loads_iff.mp hu)
  case decided =>
    intro j later hlater hset
    rw [hrecords] at hlater
    by_cases hj : i = j
    · subst hj
      simp only [if_true, hrecord, Option.map_some, Option.some.injEq] at hlater
      rw [← hlater]
      exact hdecided
    · rw [if_neg hj] at hlater
      exact hs.decided hlater hset
  case sound =>
    intro u other phase hother
    rcases hmoved.after.mp hother with ⟨-, rfl, rfl⟩ | ⟨hne, hother⟩
    · refine ⟨by simp [Phase.record?], ?_⟩
      rintro answer ⟨rfl⟩
      rw [← hreply]
      exact Record.reply_ne_none hdecided
    · refine (hs.sound hother).revise (f := fun record => { record with signalled := true }) ?_
        (fun _ => rfl) hrecords
      intro hloading
      exact hne (hs.sole ⟨other, phase, hother, hloading⟩ hown)

/-! ## Every state of a run is orderly -/

/-- Every step of a thread keeps the state orderly. -/
theorem Orderly.turn (hs : Orderly s) {source : Source} (hturn : Turn s t source s') :
    Orderly s' := by
  cases hturn with
  | @hit file loaded hat hget =>
    exact hs.idle (.of_setPhase hat rfl) rfl rfl rfl rfl ⟨by simp [Phase.record?], by simp⟩
  | @join file i hat hget hlookup =>
    obtain ⟨u, other, phase, hother, hlisted, hidentity⟩ := hs.lists_of_lookup hlookup
    obtain ⟨record, hrecord, hsame, -⟩ := (hs.sound hother).recorded
      (Phase.record?_of_loading? (Phase.loading?_of_listed? hlisted))
    refine hs.idle (.of_setPhase hat rfl) rfl rfl rfl rfl ⟨?_, by simp⟩
    intro j hj
    obtain rfl : i = j := by simpa [Phase.record?] using hj
    exact ⟨record, hrecord, hsame.trans hidentity, trivial⟩
  | @register file hat hget hlookup =>
    exact hs.register (.of_setPhase hat rfl) hlookup rfl rfl
  | @wake file i record hat hrecord hset =>
    refine hs.idle (.of_setPhase hat rfl) rfl rfl rfl rfl ⟨by simp [Phase.record?], ?_⟩
    rintro reply ⟨rfl⟩
    exact Record.reply_ne_none (hs.decided hrecord hset)
  | @parse file i effect hat hsource =>
    refine hs.note (.of_setPhase hat rfl) rfl rfl rfl (fun j => State.getElem?_setRecord _ i j _)
      (fun _ => rfl) (fun _ => rfl) ?_
    rintro record ⟨-, herror⟩
    exact ⟨rfl, herror⟩
  | @fail file i e hat hsource =>
    refine hs.note (.of_setPhase hat rfl) rfl rfl rfl (fun j => State.getElem?_setRecord _ i j _)
      (fun _ => rfl) (fun _ => rfl) ?_
    rintro record ⟨heffect, -⟩
    exact ⟨rfl, by simp [Record.Decided, heffect]⟩
  | @publish file i loaded hat =>
    refine hs.note (.of_setPhase hat rfl) rfl rfl rfl (f := id) (fun j => ?_)
      (fun _ => rfl) (fun _ => rfl) ?_
    · simp [State.publish]
    · rintro record ⟨heffect, herror⟩
      exact ⟨by simp [Record.reply, heffect, herror], by simp [Record.Decided, heffect, herror]⟩
  | @retire file i reply hat => exact hs.retire (.of_setPhase hat rfl) rfl rfl
  | @signal file i reply hat =>
    exact hs.signal (.of_setPhase hat rfl) rfl fun j => State.getElem?_setRecord s i j _

/-- A further thread keeps the state orderly. -/
theorem Orderly.call (hs : Orderly s) (file : SourceFile) : Orderly (s.call file) := by
  refine hs.keep rfl ?_ ?_ (fun _ => rfl) hs.decided ?_
  · intro u entry
    constructor
    · rintro ⟨other, phase, hother, hlisted, hidentity⟩
      rcases State.at_call.mp hother with ⟨-, -, rfl⟩ | hother
      · simp [Phase.listed?] at hlisted
      · exact ⟨other, phase, hother, hlisted, hidentity⟩
    · rintro ⟨other, phase, hother, hlisted, hidentity⟩
      exact ⟨other, phase, State.at_call.mpr (Or.inr hother), hlisted, hidentity⟩
  · intro u i
    constructor
    · rintro ⟨other, phase, hother, hloading⟩
      rcases State.at_call.mp hother with ⟨-, -, rfl⟩ | hother
      · simp [Phase.loading?] at hloading
      · exact ⟨other, phase, hother, hloading⟩
    · rintro ⟨other, phase, hother, hloading⟩
      exact ⟨other, phase, State.at_call.mpr (Or.inr hother), hloading⟩
  · intro u other phase hother
    rcases State.at_call.mp hother with ⟨-, rfl, rfl⟩ | hother
    · exact ⟨by simp [Phase.record?], by simp⟩
    · exact hs.sound hother

/-- Every event keeps the state orderly. -/
theorem Orderly.step (hs : Orderly s) {event : Event} (hstep : s.step event = some s') :
    Orderly s' := by
  rcases State.step_cases hstep with ⟨file, -, rfl⟩ | ⟨t, source, -, hturn⟩ | ⟨-, rfl⟩
  · exact hs.call file
  · exact hs.turn hturn
  · exact hs.keep rfl Iff.rfl Iff.rfl (fun _ => rfl) hs.decided hs.sound

/-- Every run keeps the state orderly. -/
theorem Orderly.run (hs : Orderly s) {events : List Event} (hrun : s.run events = some s') :
    Orderly s' :=
  State.run_keeps hrun (fun _ _ _ _ ha hstep => ha.step hstep) hs

end

end ShaderCompose.Flight
