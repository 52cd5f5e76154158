import Mathlib.Data.List.Nodup
import ShaderCompose.Proofs.Expansion.Evaluation

/-!
# The requests of an expansion

An expansion makes its requests one after the other: the key that it is asked for, and then the key
of each include line that it comes to.  `calls` lists them in the order in which they are made, each
with the state before and after it.  The list is computed along with the expansion, and `Traced` is
the evaluation relation with this list beside the outcome.

An expansion stops at the first request that fails by itself, and what each kind of step keeps holds
before and after every request.
-/

set_option autoImplicit false

namespace ShaderCompose

variable {ρ : Type} [SourceReader ρ]

/-- A request that is made in the course of an expansion. -/
structure Call where
  /-- The sections that are being expanded, with the keys that requested them. -/
  chain : Chain
  /-- The number of the include line that is at hand, for each of these sections. -/
  places : List Nat
  key : Text
  before : Expansion
  /-- What the key stands for, if its section is begun for this request. -/
  entered : Option Target
  outcome : Except Failure (List CodeLine)
  after : Expansion

/-- The sections that are being expanded while a request is answered. -/
def Call.stack (call : Call) : Chain :=
  call.chain ++ (call.entered.map fun target => (target.found.id, call.key)).toList

/-- A request that begins no section has no more sections on its stack than the ones that it was
made in. -/
theorem Call.stack_of_entered_none {call : Call} (h : call.entered = none) :
    call.stack = call.chain := by
  simp [stack, h]

/-! ## The list -/

/-- The requests that are made while lines are copied.  The first function answers a request, and
the second one lists what the request of a line with a number gives rise to. -/
def callsOfLines (request : Text → Expansion → Except Failure (List CodeLine) × Expansion)
    (made : Nat → Text → Expansion → List Call) (dir : Text) :
    List (Nat × Text) → Expansion → List Call
  | [], _ => []
  | (number, line) :: rest, s =>
    match Include.key? line with
    | none => callsOfLines request made dir rest s
    | some key =>
      made number (Include.relativeTo dir key) s ++
        match request (Include.relativeTo dir key) s with
        | (.error _, _) => []
        | (.ok _, s) => callsOfLines request made dir rest s

/-- The requests that are made while a key is expanded, the one for the key itself first. -/
def callsOfKey (r : Registry ρ) : Nat → Chain → List Nat → Text → Expansion → List Call
  | 0, _, _, _, _ => []
  | depth + 1, chain, places, key, s =>
    let answer := expandKey r (depth + 1) chain key s
    match locate r key s.memory with
    | (.error _, _) => [⟨chain, places, key, s, none, answer.1, answer.2⟩]
    | (.ok target, m) =>
      if chain.any (·.1 == target.found.id) || s.expanded.contains target.found.id then
        [⟨chain, places, key, s, none, answer.1, answer.2⟩]
      else
        let inside := chain ++ [(target.found.id, key)]
        ⟨chain, places, key, s, some target, answer.1, answer.2⟩ ::
          callsOfLines (expandKey r depth inside)
            (fun number => callsOfKey r depth inside (places ++ [number]))
            (Path.directory target.name) target.found.lines ((s.withMemory m).begin target).2

/-- The requests of the expansion of a key, in the order in which they are made. -/
def calls (r : Registry) (key : Text) (m : Memory) : List Call :=
  callsOfKey r (depthBound r m + 1) [] [] key (.start m)

/-! ## The relation -/

/-- What comes of a job that is started in a state, and the requests that are made for it. -/
inductive Traced (r : Registry ρ) :
    List Nat → Job → Expansion → List Call → Except Failure (List CodeLine) → Expansion → Prop
  | unlocated {places : List Nat} {chain : Chain} {key : Text} {s : Expansion} {e : Failure}
      {m : Memory} :
      locate r key s.memory = (.error e, m) →
        Traced r places (.request chain key) s
          [⟨chain, places, key, s, none, .error e, s.withMemory m⟩] (.error e) (s.withMemory m)
  | cyclic {places : List Nat} {chain : Chain} {key : Text} {s : Expansion} {target : Target}
      {m : Memory} {e : Failure} :
      locate r key s.memory = (.ok target, m) → target.found.id ∈ chain.map Prod.fst →
      e = .effect (.cyclicInclude (chain.map Prod.snd ++ [key])) →
        Traced r places (.request chain key) s
          [⟨chain, places, key, s, none, .error e, s.withMemory m⟩] (.error e) (s.withMemory m)
  | repeated {places : List Nat} {chain : Chain} {key : Text} {s : Expansion} {target : Target}
      {m : Memory} :
      locate r key s.memory = (.ok target, m) → target.found.id ∉ chain.map Prod.fst →
      target.found.id ∈ s.expanded →
        Traced r places (.request chain key) s
          [⟨chain, places, key, s, none, .ok [], (s.withMemory m).warn target key⟩]
          (.ok []) ((s.withMemory m).warn target key)
  | unfolded {places : List Nat} {chain : Chain} {key : Text} {s s' : Expansion} {target : Target}
      {m : Memory} {made : List Call} {result : Except Failure (List CodeLine)} :
      locate r key s.memory = (.ok target, m) → target.found.id ∉ chain.map Prod.fst →
      target.found.id ∉ s.expanded →
      Traced r places (.copy (chain ++ [(target.found.id, key)]) (Path.directory target.name)
          ((s.withMemory m).begin target).1 target.found.lines true)
        ((s.withMemory m).begin target).2 made result s' →
        Traced r places (.request chain key) s
          (⟨chain, places, key, s, some target, result, s'⟩ :: made) result s'
  | ended {places : List Nat} {chain : Chain} {dir : Text} {index : Nat} {pending : Bool}
      {s : Expansion} :
      Traced r places (.copy chain dir index [] pending) s [] (.ok []) s
  | refused {places : List Nat} {chain : Chain} {dir line key : Text} {index number : Nat}
      {rest : List (Nat × Text)} {pending : Bool} {s s' : Expansion} {made : List Call}
      {e : Failure} :
      Include.key? line = some key →
      Traced r (places ++ [number]) (.request chain (Include.relativeTo dir key)) s made
        (.error e) s' →
        Traced r places (.copy chain dir index ((number, line) :: rest) pending) s made
          (.error e) s'
  | included {places : List Nat} {chain : Chain} {dir line key : Text} {index number : Nat}
      {rest : List (Nat × Text)} {pending : Bool} {s t s' : Expansion} {made more : List Call}
      {inner : List CodeLine} {result : Except Failure (List CodeLine)} :
      Include.key? line = some key →
      Traced r (places ++ [number]) (.request chain (Include.relativeTo dir key)) s made
        (.ok inner) t →
      Traced r places (.copy chain dir index rest true) t more result s' →
        Traced r places (.copy chain dir index ((number, line) :: rest) pending) s (made ++ more)
          (result.map (inner ++ ·)) s'
  | copied {places : List Nat} {chain : Chain} {dir line : Text} {index number : Nat}
      {rest : List (Nat × Text)} {pending : Bool} {s s' : Expansion} {made : List Call}
      {result : Except Failure (List CodeLine)} :
      Include.key? line = none →
      Traced r places (.copy chain dir index rest (pending && isVersionLine line)) s made
        result s' →
        Traced r places (.copy chain dir index ((number, line) :: rest) pending) s made
          (result.map fun tail => markerFor pending number index line ++ .copied line :: tail) s'

variable {r : Registry ρ}

/-- What was evaluated with its requests listed was evaluated. -/
theorem Traced.runs {places : List Nat} {job : Job} {s s' : Expansion} {made : List Call}
    {result : Except Failure (List CodeLine)} (h : Traced r places job s made result s') :
    Runs r job s result s' := by
  induction h with
  | unlocated hlocate => exact .unlocated hlocate
  | cyclic hlocate hchain he =>
    rw [he]
    exact .cyclic hlocate hchain
  | repeated hlocate hchain hbegun => exact .repeated hlocate hchain hbegun
  | unfolded hlocate hchain hnew _ ih => exact .unfolded hlocate hchain hnew ih
  | ended => exact .ended
  | refused hkey _ ih => exact .refused hkey ih
  | included hkey _ _ ihrequest ihrest => exact .included hkey ihrequest ihrest
  | copied hkey _ ih => exact .copied hkey ih

/-! ## The list is that of the relation -/

/-- The requests that are made while lines are copied by functions that answer and list requests as
the relation does. -/
theorem callsOfLines_traced {chain : Chain} {places : List Nat} {dir : Text} {index : Nat}
    {request : Text → Expansion → Except Failure (List CodeLine) × Expansion}
    {made : Nat → Text → Expansion → List Call}
    (hrequest : ∀ number key s, (request key s).1 ≠ .error .nesting →
      Traced r (places ++ [number]) (.request chain key) s (made number key s) (request key s).1
        (request key s).2)
    (lines : List (Nat × Text)) (pending : Bool) (s : Expansion)
    (h : (expandLines request dir index lines pending s).1 ≠ .error .nesting) :
    Traced r places (.copy chain dir index lines pending) s (callsOfLines request made dir lines s)
      (expandLines request dir index lines pending s).1
      (expandLines request dir index lines pending s).2 := by
  -- along the lines, which both functions go through one by one
  induction lines generalizing pending s with
  | nil => exact .ended
  | cons entry rest ih =>
    obtain ⟨number, line⟩ := entry
    cases hkey : Include.key? line with
    | some key =>
      have hfirst := hrequest number (Include.relativeTo dir key) s
      rcases hr : request (Include.relativeTo dir key) s with ⟨result, t⟩
      rw [hr] at hfirst
      cases result with
      | error e =>
        simp only [expandLines, callsOfLines, hkey, hr, List.append_nil] at h ⊢
        exact .refused hkey (hfirst h)
      | ok inner =>
        have hrest := ih true t
        rcases hcopy : expandLines request dir index rest true t with ⟨tail, s'⟩
        rw [hcopy] at hrest
        have htraced := hfirst (by simp)
        cases tail with
        | error e =>
          simp only [expandLines, callsOfLines, hkey, hr, hcopy] at h ⊢
          exact .included hkey htraced (hrest h)
        | ok tail =>
          simp only [expandLines, callsOfLines, hkey, hr, hcopy] at h ⊢
          exact .included hkey htraced (hrest (by simp))
    | none =>
      -- the function and the rule say in different words whether a marker stays pending
      have hpending : (pending && !(pending && !isVersionLine line)) =
          (pending && isVersionLine line) := by
        cases pending <;> simp
      have hrest := ih (pending && isVersionLine line) s
      rcases hcopy : expandLines request dir index rest (pending && isVersionLine line) s
        with ⟨tail, s'⟩
      rw [hcopy] at hrest
      cases tail with
      | error e =>
        simp only [expandLines, callsOfLines, hkey, hpending, hcopy] at h ⊢
        exact .copied hkey (hrest h)
      | ok tail =>
        simp only [expandLines, callsOfLines, hkey, hpending, hcopy] at h ⊢
        exact .copied hkey (hrest (by simp))

/-- While an expansion does not fail for depth, the requests that are computed for a key are those
of its evaluation. -/
theorem callsOfKey_traced (depth : Nat) (chain : Chain) (places : List Nat) (key : Text)
    (s : Expansion) (h : (expandKey r depth chain key s).1 ≠ .error .nesting) :
    Traced r places (.request chain key) s (callsOfKey r depth chain places key s)
      (expandKey r depth chain key s).1 (expandKey r depth chain key s).2 := by
  induction depth generalizing chain places key s with
  | zero => simp [expandKey] at h
  | succ depth ih =>
    rcases hlocate : locate r key s.memory with ⟨result, m⟩
    cases result with
    | error e =>
      simp only [callsOfKey, expandKey, hlocate]
      exact .unlocated hlocate
    | ok target =>
      by_cases hchain : target.found.id ∈ chain.map Prod.fst
      · have hany : chain.any (·.1 == target.found.id) = true := by simpa using hchain
        simp only [callsOfKey, expandKey, hlocate, hany, Bool.true_or, if_true]
        exact .cyclic hlocate hchain rfl
      · have hany : chain.any (·.1 == target.found.id) = false := by
          simpa [← Bool.not_eq_true] using hchain
        by_cases hbegun : target.found.id ∈ s.expanded
        · have hcontains : s.expanded.contains target.found.id = true := by simpa using hbegun
          simp only [callsOfKey, expandKey, hlocate, hany, hcontains, Bool.or_true, if_true]
          exact .repeated hlocate hchain hbegun
        · have hcontains : s.expanded.contains target.found.id = false := by simpa using hbegun
          simp only [callsOfKey, expandKey, hlocate, hany, hcontains, Bool.or_false] at h ⊢
          exact .unfolded hlocate hchain hbegun
            (callsOfLines_traced (fun number key s => ih _ _ key s) _ _ _ h)

/-- What is computed for a key within a bound on the depth that is not reached is what the relation
allows. -/
theorem expandKey_runs (depth : Nat) (chain : Chain) (key : Text) (s : Expansion)
    (h : (expandKey r depth chain key s).1 ≠ .error .nesting) :
    Runs r (.request chain key) s (expandKey r depth chain key s).1
      (expandKey r depth chain key s).2 :=
  (callsOfKey_traced depth chain [] key s h).runs

/-! ## The request that fails -/

/-- A request fails by itself: its key leads to no section, or to one that is being expanded. -/
def Call.Fails (r : Registry ρ) (call : Call) (e : Failure) : Prop :=
  (∃ m, locate r call.key call.before.memory = (.error e, m)) ∨
    ∃ target m, locate r call.key call.before.memory = (.ok target, m) ∧
      target.found.id ∈ call.chain.map Prod.fst ∧
      e = .effect (.cyclicInclude (call.chain.map Prod.snd ++ [call.key]))

/-- A request whose key leads to a section that is not being expanded does not fail by itself. -/
theorem Call.not_fails {call : Call} {target : Target} {m : Memory}
    (hlocate : locate r call.key call.before.memory = (.ok target, m))
    (hchain : target.found.id ∉ call.chain.map Prod.fst) (e : Failure) : ¬ call.Fails r e := by
  rintro (⟨m', herror⟩ | ⟨other, m', hother, hcycle, -⟩)
  · rw [hlocate] at herror
    simp at herror
  · rw [hlocate] at hother
    obtain ⟨hsame, -⟩ := Prod.mk.inj hother
    rw [← Except.ok.inj hsame] at hcycle
    exact hchain hcycle

/-- In a job that succeeds every request leads to a section that is not being expanded and is begun
by the end. -/
theorem Traced.locate_begun {places : List Nat} {job : Job} {s s' : Expansion} {made : List Call}
    {result : Except Failure (List CodeLine)} (h : Traced r places job s made result s')
    {code : List CodeLine} (hresult : result = .ok code) :
    ∀ call ∈ made, ∃ target m, locate r call.key call.before.memory = (.ok target, m) ∧
      target.found.id ∉ call.chain.map Prod.fst ∧ target.found.id ∈ s'.expanded := by
  induction h generalizing code with
  | unlocated | cyclic | refused => simp at hresult
  | @repeated places chain key s target m hlocate hchain hbegun =>
    intro call hcall
    rw [List.mem_singleton.mp hcall]
    exact ⟨target, m, hlocate, hchain, hbegun⟩
  | @unfolded places chain key s s' target m made result hlocate hchain _ hcopy ih =>
    intro call hcall
    rcases List.mem_cons.mp hcall with rfl | hcall
    · refine ⟨target, m, hlocate, hchain, hcopy.runs.expanded_grow.subset ?_⟩
      rw [Expansion.expanded_begin]
      exact List.mem_append_right _ List.mem_cons_self
    · exact ih hresult call hcall
  | ended => simp
  | included _ _ hrest ihrequest ihrest =>
    obtain ⟨tail, htail, -⟩ := map_eq_ok hresult
    intro call hcall
    rcases List.mem_append.mp hcall with hcall | hcall
    · obtain ⟨target, m, hlocate, hchain, hbegun⟩ := ihrequest rfl call hcall
      exact ⟨target, m, hlocate, hchain, hrest.runs.expanded_grow.subset hbegun⟩
    · exact ihrest htail call hcall
  | copied _ _ ih =>
    obtain ⟨tail, htail, -⟩ := map_eq_ok hresult
    exact ih htail

/-- None of the requests of an expansion that succeeds fails. -/
theorem Traced.not_fails {places : List Nat} {job : Job} {s s' : Expansion} {made : List Call}
    {code : List CodeLine} (h : Traced r places job s made (.ok code) s') :
    ∀ call ∈ made, ∀ e, ¬ call.Fails r e := by
  intro call hcall
  obtain ⟨target, m, hlocate, hchain, -⟩ := h.locate_begun rfl call hcall
  exact Call.not_fails hlocate hchain

/-- A job fails with the failure of the last request that is made for it, and this is the first one
that fails by itself. -/
theorem Traced.last_fails {places : List Nat} {job : Job} {s s' : Expansion} {made : List Call}
    {result : Except Failure (List CodeLine)} (h : Traced r places job s made result s')
    {e : Failure} (hresult : result = .error e) :
    ∃ earlier last, made = earlier ++ [last] ∧
      (∀ call ∈ earlier, ∀ e', ¬ call.Fails r e') ∧ last.Fails r e := by
  induction h with
  | @unlocated places chain key s e' m hlocate =>
    obtain rfl := Except.error.inj hresult
    exact ⟨[], _, rfl, by simp, Or.inl ⟨m, hlocate⟩⟩
  | @cyclic places chain key s target m e' hlocate hchain he =>
    obtain rfl := Except.error.inj hresult
    exact ⟨[], _, rfl, by simp, Or.inr ⟨target, m, hlocate, hchain, he⟩⟩
  | repeated | ended => simp at hresult
  | unfolded hlocate hchain _ _ ih =>
    obtain ⟨earlier, last, rfl, hearlier, hlast⟩ := ih hresult
    refine ⟨_ :: earlier, last, rfl, ?_, hlast⟩
    intro call hcall
    rcases List.mem_cons.mp hcall with rfl | hcall
    · exact Call.not_fails hlocate hchain
    · exact hearlier call hcall
  | refused _ _ ih => exact ih hresult
  | @included places chain dir line key index number rest pending s t s' made more inner result
      hkey hrequest hrest ihrequest ihrest =>
    obtain ⟨earlier, last, rfl, hearlier, hlast⟩ := ihrest (map_eq_error hresult)
    refine ⟨made ++ earlier, last, by rw [List.append_assoc], ?_, hlast⟩
    intro call hcall
    rcases List.mem_append.mp hcall with hcall | hcall
    · exact hrequest.not_fails call hcall
    · exact hearlier call hcall
  | copied _ _ ih => exact ih (map_eq_error hresult)

/-! ## Sections that are begun -/

section

variable {places : List Nat} {job : Job} {s s' : Expansion} {made : List Call}
variable {result : Except Failure (List CodeLine)}

/-- The sections that a job begins are those that its requests enter, in order. -/
theorem Traced.expanded_eq (h : Traced r places job s made result s') :
    s'.expanded =
      s.expanded ++ (made.filterMap Call.entered).map fun target => target.found.id := by
  induction h with
  | unlocated | cyclic | repeated => simp
  | unfolded _ _ _ _ ih =>
    rw [ih, Expansion.expanded_begin]
    simp
  | ended => simp
  | refused _ _ ih => exact ih
  | included _ _ _ ihrequest ihrest =>
    rw [ihrest, ihrequest]
    simp
  | copied _ _ ih => exact ih

/-- The section that a request begins is the one that its key leads to, in the state in which it is
made. -/
theorem Traced.locate_entered (h : Traced r places job s made result s') :
    ∀ call ∈ made, ∀ target, call.entered = some target →
      ∃ m, locate r call.key call.before.memory = (.ok target, m) := by
  induction h with
  | unlocated | cyclic | repeated =>
    intro call hcall target hentered
    rw [List.mem_singleton.mp hcall] at hentered
    simp at hentered
  | @unfolded places chain key s s' target m made result hlocate _ _ _ ih =>
    intro call hcall other hentered
    rcases List.mem_cons.mp hcall with rfl | hcall
    · rw [← Option.some.inj hentered]
      exact ⟨m, hlocate⟩
    · exact ih call hcall other hentered
  | ended => simp
  | refused _ _ ih => exact ih
  | included _ _ _ ihrequest ihrest =>
    intro call hcall
    rcases List.mem_append.mp hcall with hcall | hcall
    · exact ihrequest call hcall
    · exact ihrest call hcall
  | copied _ _ ih => exact ih

end

/-! ## What every step keeps -/

/-- The sections that are being expanded while a job is done. -/
def Job.chain : Job → Chain
  | .request chain _ => chain
  | .copy chain _ _ _ _ => chain

/-- A property of the sections that are being expanded and the state, which is kept when a key is
looked up, when a repeated request is noted, and when a section is begun and left. -/
structure Invariant (r : Registry ρ) (holds : Chain → Expansion → Prop) : Prop where
  looked {chain : Chain} {key : Text} {s : Expansion} {result : Except Failure Target}
    {m : Memory} :
    locate r key s.memory = (result, m) → holds chain s → holds chain (s.withMemory m)
  warned {chain : Chain} {s : Expansion} (target : Target) (key : Text) :
    holds chain s → holds chain (s.warn target key)
  begun {chain : Chain} {key : Text} {s : Expansion} {target : Target} {m : Memory} :
    locate r key s.memory = (.ok target, m) → target.found.id ∉ chain.map Prod.fst →
    target.found.id ∉ s.expanded → holds chain s →
      holds (chain ++ [(target.found.id, key)]) ((s.withMemory m).begin target).2
  left {chain : Chain} {entry : SectionId × Text} {s : Expansion} :
    holds (chain ++ [entry]) s → holds chain s

section

variable {holds : Chain → Expansion → Prop} {job : Job} {s s' : Expansion}
variable {result : Except Failure (List CodeLine)}

/-- What every step keeps holds at the end of a job, also if it fails. -/
theorem Runs.keeps (h : Runs r job s result s') (hinvariant : Invariant r holds)
    (hs : holds job.chain s) : holds job.chain s' := by
  induction h with
  | unlocated hlocate => exact hinvariant.looked hlocate hs
  | cyclic hlocate _ => exact hinvariant.looked hlocate hs
  | repeated hlocate _ _ => exact hinvariant.warned _ _ (hinvariant.looked hlocate hs)
  | unfolded hlocate hchain hnew _ ih =>
    exact hinvariant.left (ih (hinvariant.begun hlocate hchain hnew hs))
  | ended => exact hs
  | refused _ _ ih => exact ih hs
  | included _ _ _ ihrequest ihrest => exact ihrest (ihrequest hs)
  | copied _ _ ih => exact ih hs

/-- What every step keeps holds before each request, while it is answered, and after it. -/
theorem Traced.keeps {places : List Nat} {made : List Call}
    (h : Traced r places job s made result s') (hinvariant : Invariant r holds)
    (hs : holds job.chain s) :
    ∀ call ∈ made, holds call.chain call.before ∧ (∃ t, holds call.stack t) ∧
      holds call.chain call.after := by
  -- a request is left with the chain that it was made with, also if something fails inside
  induction h with
  | @unlocated places chain key s e m hlocate =>
    intro call hcall
    rw [List.mem_singleton.mp hcall]
    exact ⟨hs, ⟨s, by rwa [Call.stack_of_entered_none rfl]⟩, hinvariant.looked hlocate hs⟩
  | @cyclic places chain key s target m e hlocate _ _ =>
    intro call hcall
    rw [List.mem_singleton.mp hcall]
    exact ⟨hs, ⟨s, by rwa [Call.stack_of_entered_none rfl]⟩, hinvariant.looked hlocate hs⟩
  | @repeated places chain key s target m hlocate _ _ =>
    intro call hcall
    rw [List.mem_singleton.mp hcall]
    exact ⟨hs, ⟨s, by rwa [Call.stack_of_entered_none rfl]⟩,
      hinvariant.warned _ _ (hinvariant.looked hlocate hs)⟩
  | unfolded hlocate hchain hnew hcopy ih =>
    have hbegun := hinvariant.begun hlocate hchain hnew hs
    intro call hcall
    rcases List.mem_cons.mp hcall with rfl | hcall
    · exact ⟨hs, ⟨_, hbegun⟩, hinvariant.left (hcopy.runs.keeps hinvariant hbegun)⟩
    · exact ih hbegun call hcall
  | ended => simp
  | refused _ _ ih => exact ih hs
  | included _ hrequest _ ihrequest ihrest =>
    have hlater := hrequest.runs.keeps hinvariant hs
    intro call hcall
    rcases List.mem_append.mp hcall with hcall | hcall
    · exact ihrequest hs call hcall
    · exact ihrest hlater call hcall
  | copied _ _ ih => exact ih hs

end

/-- Two properties that are kept by every step are kept together. -/
theorem Invariant.and {holds also : Chain → Expansion → Prop} (h : Invariant r holds)
    (h' : Invariant r also) : Invariant r fun chain s => holds chain s ∧ also chain s where
  looked hlocate hs := ⟨h.looked hlocate hs.1, h'.looked hlocate hs.2⟩
  warned target key hs := ⟨h.warned target key hs.1, h'.warned target key hs.2⟩
  begun hlocate hchain hnew hs :=
    ⟨h.begun hlocate hchain hnew hs.1, h'.begun hlocate hchain hnew hs.2⟩
  left hs := ⟨h.left hs.1, h'.left hs.2⟩

/-- That effects are parsed under the identities at which they are kept is kept by every step. -/
theorem Cache.Parsed.invariant (r : Registry ρ) :
    Invariant r fun _ s => s.memory.cache.Parsed where
  looked hlocate h := h.locate hlocate
  warned _ _ h := h
  begun hlocate _ _ h := by
    rw [Expansion.memory_begin]
    exact h.locate hlocate
  left h := h

/-- The sections that are being expanded are different ones that were begun, and no section was
begun twice. -/
structure Stacked (chain : Chain) (s : Expansion) : Prop where
  distinct : (chain.map Prod.fst).Nodup
  current {id : SectionId} : id ∈ chain.map Prod.fst → id ∈ s.expanded
  once : s.expanded.Nodup

/-- At the start no section is being expanded and none was begun. -/
theorem Stacked.start (m : Memory) : Stacked [] (.start m) := by
  refine ⟨?_, ?_, ?_⟩ <;> simp [Expansion.start]

/-- That no section is begun twice, and that those being expanded are different, is kept by every
step. -/
theorem Stacked.invariant (r : Registry ρ) : Invariant r Stacked where
  looked _ h := ⟨h.distinct, h.current, h.once⟩
  warned _ _ h := ⟨h.distinct, h.current, h.once⟩
  begun {chain key s target m} _ hchain hnew h := by
    refine ⟨?_, ?_, ?_⟩
    · rw [List.map_append]
      exact h.distinct.append (List.nodup_singleton _) (List.disjoint_singleton.mpr hchain)
    · intro id hid
      rw [Expansion.expanded_begin]
      rw [List.map_append, List.mem_append] at hid
      rcases hid with hid | hid
      · exact List.mem_append_left _ (h.current hid)
      · exact List.mem_append_right _ (by simpa using hid)
    · rw [Expansion.expanded_begin]
      exact h.once.append (List.nodup_singleton _) (List.disjoint_singleton.mpr hnew)
  left {chain entry s} h := by
    have hpart : chain.map Prod.fst <+: (chain ++ [entry]).map Prod.fst := by simp
    exact ⟨h.distinct.sublist hpart.sublist, fun hid => h.current (hpart.subset hid), h.once⟩

end ShaderCompose
