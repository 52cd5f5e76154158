import ShaderCompose.Proofs.Expansion.Calls
import ShaderCompose.Proofs.Expansion.Correspondence

/-!
# Expansions side by side

Two expansions go side by side if what each step of the first one does to a job and a state is
matched by a step of the second.  The registries may have other readers, the keys other spellings,
and the states other memories or other file indices: which jobs, states, failures and lines of code
belong together is left open.

`SideBySide` lists what has to be shown for the single steps, and `Traced.follow` derives from it
that a whole run of the first expansion is followed by the second one.
-/

set_option autoImplicit false

namespace ShaderCompose

/-- What two requests come to is treated alike: both sections are refused, skipped or entered, and
the jobs and states that come of it are related. -/
structure Met (J : Job → Job → Prop) (S : Expansion → Expansion → Prop)
    (F : Failure → Failure → Prop) (chain : Chain) (key : Text) (s : Expansion) (target : Target)
    (chain' : Chain) (key' : Text) (t : Expansion) (target' : Target) : Prop where
  current : target'.found.id ∈ chain'.map Prod.fst ↔ target.found.id ∈ chain.map Prod.fst
  begun : target'.found.id ∈ t.expanded ↔ target.found.id ∈ s.expanded
  looked : S s t
  refused : F (.effect (.cyclicInclude (chain.map Prod.snd ++ [key])))
    (.effect (.cyclicInclude (chain'.map Prod.snd ++ [key'])))
  warned : S (s.warn target key) (t.warn target' key')
  entered : S (s.begin target).2 (t.begin target').2
  copied : J
    (.copy (chain ++ [(target.found.id, key)]) (Path.directory target.name) (s.begin target).1
      target.found.lines true)
    (.copy (chain' ++ [(target'.found.id, key')]) (Path.directory target'.name) (t.begin target').1
      target'.found.lines true)

/-- Each step of an expansion is matched by one of another, as long as the requested keys are of
some kind: related jobs that are done from related states lead to related jobs, states, failures and
code. -/
structure SideBySide (r r' : Registry) (kind : Text → Prop) (J : Job → Job → Prop)
    (S : Expansion → Expansion → Prop) (F : Failure → Failure → Prop)
    (C : List CodeLine → List CodeLine → Prop) : Prop where
  fails {chain : Chain} {key : Text} {job' : Job} {s t : Expansion} {e : Failure} {m : Memory} :
    J (.request chain key) job' → S s t → kind key → locate r key s.memory = (.error e, m) →
      ∃ chain' key' f n, job' = .request chain' key' ∧ locate r' key' t.memory = (.error f, n) ∧
        F e f ∧ S (s.withMemory m) (t.withMemory n)
  finds {chain : Chain} {key : Text} {job' : Job} {s t : Expansion} {target : Target}
    {m : Memory} :
    J (.request chain key) job' → S s t → kind key → locate r key s.memory = (.ok target, m) →
      ∃ chain' key' target' n, job' = .request chain' key' ∧
        locate r' key' t.memory = (.ok target', n) ∧
        Met J S F chain key (s.withMemory m) target chain' key' (t.withMemory n) target'
  ends {chain : Chain} {dir : Text} {index : Nat} {pending : Bool} {job' : Job} :
    J (.copy chain dir index [] pending) job' →
      ∃ chain' dir' index' pending', job' = .copy chain' dir' index' [] pending'
  includes {chain : Chain} {dir line key : Text} {index number : Nat} {rest : List (Nat × Text)}
    {pending : Bool} {job' : Job} :
    J (.copy chain dir index ((number, line) :: rest) pending) job' →
    Include.key? line = some key →
      ∃ chain' dir' index' number' line' rest' pending' key',
        job' = .copy chain' dir' index' ((number', line') :: rest') pending' ∧
        Include.key? line' = some key' ∧
        J (.request chain (Include.relativeTo dir key))
          (.request chain' (Include.relativeTo dir' key')) ∧
        J (.copy chain dir index rest true) (.copy chain' dir' index' rest' true)
  copies {chain : Chain} {dir line : Text} {index number : Nat} {rest : List (Nat × Text)}
    {pending : Bool} {job' : Job} :
    J (.copy chain dir index ((number, line) :: rest) pending) job' → Include.key? line = none →
      ∃ chain' dir' index' number' line' rest' pending',
        job' = .copy chain' dir' index' ((number', line') :: rest') pending' ∧
        Include.key? line' = none ∧
        J (.copy chain dir index rest (pending && isVersionLine line))
          (.copy chain' dir' index' rest' (pending' && isVersionLine line')) ∧
        ∀ tail tail', C tail tail' →
          C (markerFor pending number index line ++ .copied line :: tail)
            (markerFor pending' number' index' line' ++ .copied line' :: tail')
  nil : C [] []
  append {inner inner' tail tail' : List CodeLine} :
    C inner inner' → C tail tail' → C (inner ++ tail) (inner' ++ tail')

/-- A run is followed by the other expansion, and ends in the same way. -/
theorem Traced.follow {r r' : Registry} {kind : Text → Prop} {J : Job → Job → Prop}
    {S : Expansion → Expansion → Prop} {F : Failure → Failure → Prop}
    {C : List CodeLine → List CodeLine → Prop} (hside : SideBySide r r' kind J S F C)
    {places : List Nat} {job job' : Job} {s s' t : Expansion} {made : List Call}
    {result : Except Failure (List CodeLine)} (h : Traced r places job s made result s')
    (hmade : ∀ call ∈ made, kind call.key) (hjob : J job job') (hs : S s t) :
    ∃ result' t', Runs r' job' t result' t' ∧ Paired F C result result' ∧ S s' t' := by
  -- the two runs take the same rules
  induction h generalizing job' t with
  | unlocated hlocate =>
    obtain ⟨chain', key', f, n, rfl, hlocate', hfailures, hstates⟩ :=
      hside.fails hjob hs (hmade _ List.mem_cons_self) hlocate
    exact ⟨_, _, .unlocated hlocate', .error hfailures, hstates⟩
  | cyclic hlocate hchain he =>
    obtain ⟨chain', key', target', n, rfl, hlocate', hmet⟩ :=
      hside.finds hjob hs (hmade _ List.mem_cons_self) hlocate
    rw [he]
    exact ⟨_, _, .cyclic hlocate' (hmet.current.mpr hchain), .error hmet.refused, hmet.looked⟩
  | repeated hlocate hchain hbegun =>
    obtain ⟨chain', key', target', n, rfl, hlocate', hmet⟩ :=
      hside.finds hjob hs (hmade _ List.mem_cons_self) hlocate
    have hchain' := mt hmet.current.mp hchain
    have hbegun' := hmet.begun.mpr hbegun
    exact ⟨_, _, .repeated hlocate' hchain' hbegun', .ok hside.nil, hmet.warned⟩
  | unfolded hlocate hchain hnew _ ih =>
    obtain ⟨chain', key', target', n, rfl, hlocate', hmet⟩ :=
      hside.finds hjob hs (hmade _ List.mem_cons_self) hlocate
    have hchain' := mt hmet.current.mp hchain
    have hnew' := mt hmet.begun.mp hnew
    obtain ⟨result', t', hcopy', hresults, hstates⟩ :=
      ih (fun call hcall => hmade call (List.mem_cons_of_mem _ hcall)) hmet.copied hmet.entered
    exact ⟨result', t', .unfolded hlocate' hchain' hnew' hcopy', hresults, hstates⟩
  | ended =>
    obtain ⟨chain', dir', index', pending', rfl⟩ := hside.ends hjob
    exact ⟨_, _, .ended, .ok hside.nil, hs⟩
  | refused hkey _ ih =>
    obtain ⟨chain', dir', index', number', line', rest', pending', key', rfl, hkey', hrequest, -⟩ :=
      hside.includes hjob hkey
    obtain ⟨result', t', hrequest', hresults, hstates⟩ := ih hmade hrequest hs
    cases hresults with
    | error hfailures => exact ⟨_, _, .refused hkey' hrequest', .error hfailures, hstates⟩
  | included hkey _ _ ihrequest ihrest =>
    obtain ⟨chain', dir', index', number', line', rest', pending', key', rfl, hkey', hrequest,
      hrest⟩ := hside.includes hjob hkey
    obtain ⟨result', t', hrequest', hresults, hstates⟩ :=
      ihrequest (fun call hcall => hmade call (List.mem_append_left _ hcall)) hrequest hs
    cases hresults with
    | ok hinner =>
      obtain ⟨result'', t'', hrest', hresults', hstates'⟩ :=
        ihrest (fun call hcall => hmade call (List.mem_append_right _ hcall)) hrest hstates
      exact ⟨_, t'', .included hkey' hrequest' hrest',
        hresults'.map fun _ _ htail => hside.append hinner htail, hstates'⟩
  | copied hkey _ ih =>
    obtain ⟨chain', dir', index', number', line', rest', pending', rfl, hkey', hrest, hcode⟩ :=
      hside.copies hjob hkey
    obtain ⟨result', t', hrest', hresults, hstates⟩ := ih hmade hrest hs
    exact ⟨_, t', .copied hkey' hrest', hresults.map hcode, hstates⟩

end ShaderCompose
