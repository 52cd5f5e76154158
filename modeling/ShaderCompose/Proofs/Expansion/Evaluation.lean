import Mathlib.Data.List.Basic
import ShaderCompose.Proofs.Loading

/-!
# Expansion as an evaluation relation

An expansion takes requests for keys and copies the lines of sections.  `Runs` says what each of the
two does, one rule for each way it can go, without a bound on how deep sections are nested.  The
relation allows one outcome only, and along a run the cache, the source files and the begun sections
only grow.
-/

set_option autoImplicit false

namespace ShaderCompose

variable {ρ : Type} [SourceReader ρ]

/-! ## The state of an expansion -/

namespace Expansion

/-- The state with another memory. -/
def withMemory (s : Expansion) (m : Memory) : Expansion := { s with memory := m }

/-- Replacing the memory puts the new one in place. -/
@[simp]
theorem memory_withMemory (s : Expansion) (m : Memory) : (s.withMemory m).memory = m := rfl

/-- Replacing the memory keeps the begun sections. -/
@[simp]
theorem expanded_withMemory (s : Expansion) (m : Memory) :
    (s.withMemory m).expanded = s.expanded := rfl

/-- Replacing the memory keeps the recorded file indices. -/
@[simp]
theorem indices_withMemory (s : Expansion) (m : Memory) :
    (s.withMemory m).indices = s.indices := rfl

/-- Replacing the memory keeps the source files. -/
@[simp]
theorem files_withMemory (s : Expansion) (m : Memory) : (s.withMemory m).files = s.files := rfl

/-- Replacing the memory keeps the warnings. -/
@[simp]
theorem warnings_withMemory (s : Expansion) (m : Memory) :
    (s.withMemory m).warnings = s.warnings := rfl

/-- Noting a repeated request does not change the cache. -/
@[simp]
theorem cache_warn (s : Expansion) (target : Target) (key : Text) :
    (s.warn target key).memory.cache = s.memory.cache := rfl

/-- Noting a repeated request begins no section. -/
@[simp]
theorem expanded_warn (s : Expansion) (target : Target) (key : Text) :
    (s.warn target key).expanded = s.expanded := rfl

/-- Noting a repeated request gives no file index. -/
@[simp]
theorem indices_warn (s : Expansion) (target : Target) (key : Text) :
    (s.warn target key).indices = s.indices := rfl

/-- Noting a repeated request adds no source file. -/
@[simp]
theorem files_warn (s : Expansion) (target : Target) (key : Text) :
    (s.warn target key).files = s.files := rfl

/-- Noting a repeated request adds one warning, which names the section and the requested key. -/
@[simp]
theorem warnings_warn (s : Expansion) (target : Target) (key : Text) :
    (s.warn target key).warnings =
      s.warnings ++ [.duplicateInclude target.effect.identity target.found.key key] := rfl

/-- Beginning a section of an effect that has a file index. -/
theorem begin_of_lookup {s : Expansion} {target : Target} {index : Nat}
    (h : s.indices.lookup target.effect.identity = some index) :
    s.begin target = (index, { s with expanded := s.expanded ++ [target.found.id] }) := by
  simp [begin, h]

/-- Beginning a section of an effect that has no file index yet. -/
theorem begin_of_lookup_none {s : Expansion} {target : Target}
    (h : s.indices.lookup target.effect.identity = none) :
    s.begin target = (s.files.length,
      { s with
        expanded := s.expanded ++ [target.found.id]
        indices := s.indices ++ [(target.effect.identity, s.files.length)]
        files := s.files ++ [target.file] }) := by
  simp [begin, h]

/-- Beginning a section does not change the memory. -/
@[simp]
theorem memory_begin (s : Expansion) (target : Target) :
    (s.begin target).2.memory = s.memory := by
  cases h : s.indices.lookup target.effect.identity with
  | none => rw [begin_of_lookup_none h]
  | some index => rw [begin_of_lookup h]

/-- A section that is begun is listed behind those begun before it. -/
@[simp]
theorem expanded_begin (s : Expansion) (target : Target) :
    (s.begin target).2.expanded = s.expanded ++ [target.found.id] := by
  cases h : s.indices.lookup target.effect.identity with
  | none => rw [begin_of_lookup_none h]
  | some index => rw [begin_of_lookup h]

/-- Beginning a section gives no warning. -/
@[simp]
theorem warnings_begin (s : Expansion) (target : Target) :
    (s.begin target).2.warnings = s.warnings := by
  cases h : s.indices.lookup target.effect.identity with
  | none => rw [begin_of_lookup_none h]
  | some index => rw [begin_of_lookup h]

/-- Beginning a section gives its effect a file index, and the other effects keep theirs. -/
theorem lookup_begin (s : Expansion) (target : Target) (identity : Text) :
    (s.begin target).2.indices.lookup identity =
      if identity = target.effect.identity then some (s.begin target).1
      else s.indices.lookup identity := by
  cases h : s.indices.lookup target.effect.identity with
  | some index =>
    rw [begin_of_lookup h]
    by_cases hsame : identity = target.effect.identity
    · rw [if_pos hsame, hsame]
      exact h
    · rw [if_neg hsame]
  | none =>
    rw [begin_of_lookup_none h]
    by_cases hsame : identity = target.effect.identity
    · rw [if_pos hsame, hsame]
      simp [List.lookup_append, h]
    · have hne : (identity == target.effect.identity) = false := by simpa using hsame
      rw [if_neg hsame]
      simp [List.lookup_append, List.lookup_cons, hne]

/-- Beginning a section keeps the source files and may add one. -/
theorem files_begin_grow (s : Expansion) (target : Target) :
    s.files <+: (s.begin target).2.files := by
  cases h : s.indices.lookup target.effect.identity with
  | none => simp [begin_of_lookup_none h]
  | some index => simp [begin_of_lookup h]

end Expansion

/-! ## The relation -/

/-- What an expansion is asked to do: to expand what a key stands for, or to copy the remaining
lines of a section whose includes are relative to a directory, with a marker pending or not.  The
chain lists the sections that are being expanded. -/
inductive Job where
  | request (chain : Chain) (key : Text)
  | copy (chain : Chain) (dir : Text) (index : Nat) (lines : List (Nat × Text)) (pending : Bool)

/-- The marker in front of a copied line, if one is due. -/
def markerFor (pending : Bool) (number index : Nat) (line : Text) : List CodeLine :=
  if pending && !isVersionLine line then [.marker number index] else []

/-- What comes of a job that is started in a state: the code or a failure, and the state after
it. -/
inductive Runs (r : Registry ρ) :
    Job → Expansion → Except Failure (List CodeLine) → Expansion → Prop
  | unlocated {chain : Chain} {key : Text} {s : Expansion} {e : Failure} {m : Memory} :
      locate r key s.memory = (.error e, m) →
        Runs r (.request chain key) s (.error e) (s.withMemory m)
  | cyclic {chain : Chain} {key : Text} {s : Expansion} {target : Target} {m : Memory} :
      locate r key s.memory = (.ok target, m) → target.found.id ∈ chain.map Prod.fst →
        Runs r (.request chain key) s
          (.error (.effect (.cyclicInclude (chain.map Prod.snd ++ [key])))) (s.withMemory m)
  | repeated {chain : Chain} {key : Text} {s : Expansion} {target : Target} {m : Memory} :
      locate r key s.memory = (.ok target, m) → target.found.id ∉ chain.map Prod.fst →
      target.found.id ∈ s.expanded →
        Runs r (.request chain key) s (.ok []) ((s.withMemory m).warn target key)
  | unfolded {chain : Chain} {key : Text} {s s' : Expansion} {target : Target} {m : Memory}
      {result : Except Failure (List CodeLine)} :
      locate r key s.memory = (.ok target, m) → target.found.id ∉ chain.map Prod.fst →
      target.found.id ∉ s.expanded →
      Runs r (.copy (chain ++ [(target.found.id, key)]) (Path.directory target.name)
          ((s.withMemory m).begin target).1 target.found.lines true)
        ((s.withMemory m).begin target).2 result s' →
        Runs r (.request chain key) s result s'
  | ended {chain : Chain} {dir : Text} {index : Nat} {pending : Bool} {s : Expansion} :
      Runs r (.copy chain dir index [] pending) s (.ok []) s
  | refused {chain : Chain} {dir line key : Text} {index number : Nat}
      {rest : List (Nat × Text)} {pending : Bool} {s s' : Expansion} {e : Failure} :
      Include.key? line = some key →
      Runs r (.request chain (Include.relativeTo dir key)) s (.error e) s' →
        Runs r (.copy chain dir index ((number, line) :: rest) pending) s (.error e) s'
  | included {chain : Chain} {dir line key : Text} {index number : Nat}
      {rest : List (Nat × Text)} {pending : Bool} {s t s' : Expansion} {inner : List CodeLine}
      {result : Except Failure (List CodeLine)} :
      Include.key? line = some key →
      Runs r (.request chain (Include.relativeTo dir key)) s (.ok inner) t →
      Runs r (.copy chain dir index rest true) t result s' →
        Runs r (.copy chain dir index ((number, line) :: rest) pending) s
          (result.map (inner ++ ·)) s'
  | copied {chain : Chain} {dir line : Text} {index number : Nat}
      {rest : List (Nat × Text)} {pending : Bool} {s s' : Expansion}
      {result : Except Failure (List CodeLine)} :
      Include.key? line = none →
      Runs r (.copy chain dir index rest (pending && isVersionLine line)) s result s' →
        Runs r (.copy chain dir index ((number, line) :: rest) pending) s
          (result.map fun tail => markerFor pending number index line ++ .copied line :: tail) s'

/-- Induction over the runs that succeed, by what each of them does first. -/
@[elab_as_elim]
theorem Runs.ok_induction {r : Registry ρ}
    {motive : (job : Job) → (s : Expansion) → (code : List CodeLine) → (s' : Expansion) →
      Runs r job s (.ok code) s' → Prop}
    (repeated : ∀ {chain : Chain} {key : Text} {s : Expansion} {target : Target} {m : Memory}
      (hlocate : locate r key s.memory = (.ok target, m))
      (hchain : target.found.id ∉ chain.map Prod.fst) (hbegun : target.found.id ∈ s.expanded),
      motive (.request chain key) s [] _ (.repeated hlocate hchain hbegun))
    (unfolded : ∀ {chain : Chain} {key : Text} {s s' : Expansion} {target : Target} {m : Memory}
      {code : List CodeLine} (hlocate : locate r key s.memory = (.ok target, m))
      (hchain : target.found.id ∉ chain.map Prod.fst) (hnew : target.found.id ∉ s.expanded)
      (hcopy : Runs r (.copy (chain ++ [(target.found.id, key)]) (Path.directory target.name)
          ((s.withMemory m).begin target).1 target.found.lines true)
        ((s.withMemory m).begin target).2 (.ok code) s'),
      motive _ _ code s' hcopy →
        motive (.request chain key) s code s' (.unfolded hlocate hchain hnew hcopy))
    (ended : ∀ {chain : Chain} {dir : Text} {index : Nat} {pending : Bool} {s : Expansion},
      motive (.copy chain dir index [] pending) s [] s .ended)
    (included : ∀ {chain : Chain} {dir line key : Text} {index number : Nat}
      {rest : List (Nat × Text)} {pending : Bool} {s t s' : Expansion}
      {inner tail : List CodeLine} (hkey : Include.key? line = some key)
      (hrequest : Runs r (.request chain (Include.relativeTo dir key)) s (.ok inner) t)
      (hrest : Runs r (.copy chain dir index rest true) t (.ok tail) s'),
      motive _ _ inner t hrequest → motive _ _ tail s' hrest →
        motive (.copy chain dir index ((number, line) :: rest) pending) s (inner ++ tail) s'
          (.included hkey hrequest hrest))
    (copied : ∀ {chain : Chain} {dir line : Text} {index number : Nat}
      {rest : List (Nat × Text)} {pending : Bool} {s s' : Expansion} {tail : List CodeLine}
      (hkey : Include.key? line = none)
      (hrest : Runs r (.copy chain dir index rest (pending && isVersionLine line)) s (.ok tail) s'),
      motive _ _ tail s' hrest →
        motive (.copy chain dir index ((number, line) :: rest) pending) s
          (markerFor pending number index line ++ .copied line :: tail) s' (.copied hkey hrest))
    {job : Job} {s : Expansion} {code : List CodeLine} {s' : Expansion}
    (h : Runs r job s (.ok code) s') : motive job s code s' h := by
  have hall : ∀ {job : Job} {s s' : Expansion} {result : Except Failure (List CodeLine)}
      (hrun : Runs r job s result s') {code : List CodeLine} (hresult : result = .ok code),
      motive job s code s' (hresult ▸ hrun) := by
    intro job s s' result hrun
    induction hrun with
    | unlocated | cyclic | refused => simp
    | repeated hlocate hchain hbegun =>
      intro code hresult
      obtain rfl : [] = code := by simpa using hresult
      exact repeated hlocate hchain hbegun
    | unfolded hlocate hchain hnew hcopy ih =>
      intro code hresult
      obtain rfl := hresult
      exact unfolded hlocate hchain hnew hcopy (ih rfl)
    | ended =>
      intro code hresult
      obtain rfl : [] = code := by simpa using hresult
      exact ended
    | included hkey hrequest hrest ihrequest ihrest =>
      intro code hresult
      obtain ⟨tail, rfl, rfl⟩ := map_eq_ok hresult
      exact included hkey hrequest hrest (ihrequest rfl) (ihrest rfl)
    | copied hkey hrest ih =>
      intro code hresult
      obtain ⟨tail, rfl, rfl⟩ := map_eq_ok hresult
      exact copied hkey hrest (ih rfl)
  exact hall h rfl

/-- A result that is the given failure. -/
theorem exists_of_isError {α : Type} (outcome : Except Failure α × Memory) (e : Failure)
    (h : (match outcome.1 with
      | .ok _ => false
      | .error other => other == e) = true) : ∃ m', outcome = (.error e, m') := by
  obtain ⟨result, m'⟩ := outcome
  cases result with
  | ok value => simp at h
  | error other =>
    obtain rfl : other = e := by simpa using h
    exact ⟨m', rfl⟩

/-! ## One outcome -/

/-- A job that is started in a state has one outcome. -/
theorem Runs.unique {r : Registry ρ} {job : Job} {s s' t : Expansion}
    {result other : Except Failure (List CodeLine)} (h : Runs r job s result s')
    (h' : Runs r job s other t) : result = other ∧ s' = t := by
  -- the premises of a rule exclude all other rules
  induction h generalizing other t with
  | unlocated hlocate =>
    cases h' with
    | unlocated hlocate' | cyclic hlocate' | repeated hlocate' | unfolded hlocate' =>
      rw [hlocate] at hlocate'
      grind
  | cyclic hlocate hchain =>
    cases h' with
    | unlocated hlocate' | cyclic hlocate' | repeated hlocate' | unfolded hlocate' =>
      rw [hlocate] at hlocate'
      grind
  | repeated hlocate hchain hexpanded =>
    cases h' with
    | unlocated hlocate' | cyclic hlocate' | repeated hlocate' | unfolded hlocate' =>
      rw [hlocate] at hlocate'
      grind
  | unfolded hlocate hchain hnew hcopy ih =>
    cases h' with
    | unlocated hlocate' | cyclic hlocate' | repeated hlocate' =>
      rw [hlocate] at hlocate'
      grind
    | unfolded hlocate' hchain' hnew' hcopy' =>
      rw [hlocate] at hlocate'
      cases hlocate'
      exact ih hcopy'
  | ended =>
    cases h' with
    | ended => exact ⟨rfl, rfl⟩
  | refused hkey hrequest ih =>
    cases h' with
    | refused hkey' hrequest' =>
      cases hkey.symm.trans hkey'
      exact ih hrequest'
    | included hkey' hrequest' hrest' =>
      cases hkey.symm.trans hkey'
      exact absurd (ih hrequest').1 (by simp)
    | copied hkey' hrest' => simp [hkey] at hkey'
  | included hkey hrequest hrest ihrequest ihrest =>
    cases h' with
    | refused hkey' hrequest' =>
      cases hkey.symm.trans hkey'
      exact absurd (ihrequest hrequest').1 (by simp)
    | included hkey' hrequest' hrest' =>
      cases hkey.symm.trans hkey'
      obtain ⟨hinner, rfl⟩ := ihrequest hrequest'
      cases hinner
      obtain ⟨rfl, rfl⟩ := ihrest hrest'
      exact ⟨rfl, rfl⟩
    | copied hkey' hrest' => simp [hkey] at hkey'
  | copied hkey hrest ih =>
    cases h' with
    | refused hkey' hrequest' => simp [hkey] at hkey'
    | included hkey' hrequest' hrest' => simp [hkey] at hkey'
    | copied hkey' hrest' =>
      obtain ⟨rfl, rfl⟩ := ih hrest'
      exact ⟨rfl, rfl⟩

/-! ## What only grows -/

/-- Along a run the cache changes by loads only. -/
theorem Runs.loads {r : Registry ρ} {job : Job} {s s' : Expansion}
    {result : Except Failure (List CodeLine)} (h : Runs r job s result s') :
    Cache.Loads r s.memory.cache s'.memory.cache := by
  induction h with
  | unlocated hlocate => exact .single (Cache.load_of_locate hlocate)
  | cyclic hlocate hchain => exact .single (Cache.load_of_locate hlocate)
  | repeated hlocate hchain hexpanded =>
    have hload := Cache.load_of_locate hlocate
    exact .single hload
  | @unfolded chain key s s' target m result hlocate hchain hnew hcopy ih =>
    have hrest : Cache.Loads r m.cache s'.memory.cache := by simpa using ih
    exact .head (Cache.load_of_locate hlocate) hrest
  | ended => exact .refl
  | refused hkey hrequest ih => exact ih
  | included hkey hrequest hrest ihrequest ihrest => exact ihrequest.trans ihrest
  | copied hkey hrest ih => exact ih

/-- Along a run source files are added behind those that are there. -/
theorem Runs.files_grow {r : Registry ρ} {job : Job} {s s' : Expansion}
    {result : Except Failure (List CodeLine)} (h : Runs r job s result s') :
    s.files <+: s'.files := by
  induction h with
  | unlocated | cyclic | repeated => simp
  | @unfolded chain key s s' target m result hlocate hchain hnew hcopy ih =>
    exact (Expansion.files_begin_grow (s.withMemory m) target).trans ih
  | ended => exact List.prefix_rfl
  | refused hkey hrequest ih => exact ih
  | included hkey hrequest hrest ihrequest ihrest => exact ihrequest.trans ihrest
  | copied hkey hrest ih => exact ih

/-- Along a run sections are begun behind those that were begun before. -/
theorem Runs.expanded_grow {r : Registry ρ} {job : Job} {s s' : Expansion}
    {result : Except Failure (List CodeLine)} (h : Runs r job s result s') :
    s.expanded <+: s'.expanded := by
  induction h with
  | unlocated | cyclic | repeated => simp
  | @unfolded chain key s s' target m result hlocate hchain hnew hcopy ih =>
    rw [Expansion.expanded_begin] at ih
    exact (List.prefix_append _ _).trans ih
  | ended => exact List.prefix_rfl
  | refused hkey hrequest ih => exact ih
  | included hkey hrequest hrest ihrequest ihrest => exact ihrequest.trans ihrest
  | copied hkey hrest ih => exact ih

end ShaderCompose
