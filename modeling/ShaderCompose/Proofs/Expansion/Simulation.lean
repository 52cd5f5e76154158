import ShaderCompose.Composer
import ShaderCompose.Proofs.Expansion.Depth
import ShaderCompose.Proofs.Expansion.SideBySide
import ShaderCompose.Proofs.Mirroring

/-!
# Registries that answer alike

Of the lines of a section, an expansion sees the steps that they stand for: to request a key, or to
copy the line.  Two registries lead through the same steps if from related memories they find
targets with the same steps, or fail for the same reason, and leave related memories behind.  A run
depends on these steps only, so it can be repeated one by one with the other registry, and whole
expansions and compositions are the same with both.

Registries that find the same targets, up to the origin of their effects, answer alike, and so they
lead through the same steps.  Which memories are related is left open: they may hold different
effects with one registry, or the same effects with two.
-/

set_option autoImplicit false

namespace ShaderCompose

/-- From related memories, two registries find the same targets up to their origin, or fail for the
same reason, and the memories stay related. -/
structure Registry.AnswersAs (r other : Registry) (rel : Memory → Memory → Prop) : Prop where
  target {m n : Memory} : rel m n → ∀ key,
    (locate other key n).1.map Target.bare = (locate r key m).1.map Target.bare
  locate {m n : Memory} : rel m n → ∀ key, rel (locate r key m).2 (locate other key n).2
  report {m n : Memory} : rel m n → ∀ records, rel (m.report records) (n.report records)

/-! ## Steps -/

/-- What an expansion does at a line. -/
inductive LineStep where
  | request (key : Text)
  | copy (line : Text)
deriving DecidableEq, Repr

/-- A line with a key requests it, and every other line is copied. -/
def Include.step (line : Text) : LineStep :=
  match key? line with
  | some key => .request key
  | none => .copy line

/-- The steps that numbered lines stand for. -/
def stepsOf (lines : List (Nat × Text)) : List (Nat × LineStep) :=
  lines.map fun entry => (entry.1, Include.step entry.2)

/-- Lines with the same step have the same key, and are the same line if they have none. -/
theorem Include.key?_of_step_eq {line other : Text} (h : step other = step line) :
    key? other = key? line ∧ (key? line = none → other = line) := by
  unfold step at h
  cases hline : key? line with
  | some key =>
    cases hother : key? other with
    | some key' => simp_all
    | none => simp [hline, hother] at h
  | none =>
    cases hother : key? other with
    | some key' => simp [hline, hother] at h
    | none => simp_all

/-- Numbered lines with the steps of others are as many, and correspond to them one by one. -/
theorem exists_cons_of_stepsOf {number : Nat} {line : Text} {rest lines : List (Nat × Text)}
    (h : stepsOf lines = stepsOf ((number, line) :: rest)) :
    ∃ line' rest', lines = (number, line') :: rest' ∧
      Include.step line' = Include.step line ∧ stepsOf rest' = stepsOf rest := by
  cases lines with
  | nil => simp [stepsOf] at h
  | cons entry rest' =>
    obtain ⟨number', line'⟩ := entry
    obtain ⟨⟨rfl, hstep⟩, hrest⟩ : (number' = number ∧ Include.step line' = Include.step line) ∧
        stepsOf rest' = stepsOf rest := by
      simpa [stepsOf] using h
    exact ⟨line', rest', rfl, hstep, hrest⟩

/-- Targets that an expansion does not tell apart. -/
structure Target.SameSteps (target other : Target) : Prop where
  name : other.name = target.name
  file : other.file = target.file
  identity : other.effect.identity = target.effect.identity
  id : other.found.id = target.found.id
  steps : stepsOf other.found.lines = stepsOf target.found.lines

/-- Targets that differ in the origin of their effects only are not told apart. -/
theorem Target.SameSteps.of_bare_eq {target other : Target} (h : other.bare = target.bare) :
    target.SameSteps other := by
  obtain ⟨hname, hfile, hidentity, hfound⟩ := Target.eq_of_bare_eq h
  exact ⟨hname, hfile, hidentity, by rw [hfound], by rw [hfound]⟩

/-- From related memories, two registries find targets with the same steps, or fail for the same
reason, and the memories stay related. -/
structure Registry.StepsAs (r other : Registry) (rel : Memory → Memory → Prop) : Prop where
  target {m n : Memory} : rel m n → ∀ key,
    Parallel Target.SameSteps (locate r key m).1 (locate other key n).1
  locate {m n : Memory} : rel m n → ∀ key, rel (locate r key m).2 (locate other key n).2
  report {m n : Memory} : rel m n → ∀ records, rel (m.report records) (n.report records)

/-- Registries that answer alike lead through the same steps. -/
theorem Registry.AnswersAs.stepsAs {r other : Registry} {rel : Memory → Memory → Prop}
    (hr : r.AnswersAs other rel) : r.StepsAs other rel where
  target h key := (Parallel.of_map_eq (hr.target h key)).mono fun _ _ hbare => .of_bare_eq hbare
  locate := hr.locate
  report := hr.report

section

variable {r other : Registry} {rel : Memory → Memory → Prop} {m n m' : Memory} {key : Text}

/-- A key that is found with one registry is found with the other, with the same steps. -/
theorem Registry.StepsAs.locate_ok (hr : r.StepsAs other rel) (h : rel m n) {target : Target}
    (hlocate : ShaderCompose.locate r key m = (.ok target, m')) :
    ∃ target' n', ShaderCompose.locate other key n = (.ok target', n') ∧
      target.SameSteps target' ∧ rel m' n' := by
  have htarget := hr.target h key
  have hrel := hr.locate h key
  rw [hlocate] at htarget hrel
  rcases hother : ShaderCompose.locate other key n with ⟨result, n'⟩
  rw [hother] at htarget hrel
  cases htarget with
  | ok hsame => exact ⟨_, n', rfl, hsame, hrel⟩

/-- A key that is not found with one registry fails with the other for the same reason. -/
theorem Registry.StepsAs.locate_error (hr : r.StepsAs other rel) (h : rel m n) {e : Failure}
    (hlocate : ShaderCompose.locate r key m = (.error e, m')) :
    ∃ n', ShaderCompose.locate other key n = (.error e, n') ∧ rel m' n' := by
  have htarget := hr.target h key
  have hrel := hr.locate h key
  rw [hlocate] at htarget hrel
  rcases hother : ShaderCompose.locate other key n with ⟨result, n'⟩
  rw [hother] at htarget hrel
  cases htarget with
  | error => exact ⟨n', rfl, hrel⟩

end

/-! ## States with another memory -/

/-- A section is begun in the same way with another memory. -/
theorem begin_withMemory (s : Expansion) (n : Memory) {target other : Target}
    (h : target.SameSteps other) :
    (s.withMemory n).begin other = ((s.begin target).1, (s.begin target).2.withMemory n) := by
  cases hlookup : s.indices.lookup target.effect.identity with
  | some index =>
    have hother : (s.withMemory n).indices.lookup other.effect.identity = some index := by
      rw [h.identity]
      exact hlookup
    rw [Expansion.begin_of_lookup hlookup, Expansion.begin_of_lookup hother, h.id]
    rfl
  | none =>
    have hother : (s.withMemory n).indices.lookup other.effect.identity = none := by
      rw [h.identity]
      exact hlookup
    rw [Expansion.begin_of_lookup_none hlookup, Expansion.begin_of_lookup_none hother, h.id,
      h.identity, h.file]
    rfl

/-- A repeated request is noted in the same way with another memory. -/
theorem warn_withMemory (s : Expansion) (n : Memory) {target other : Target} (key : Text)
    (h : target.SameSteps other) :
    ∃ records, (s.warn target key).memory = s.memory.report records ∧
      (s.withMemory n).warn other key = (s.warn target key).withMemory (n.report records) := by
  have hkey : other.found.key = target.found.key := congrArg Prod.snd h.id
  refine ⟨_, rfl, ?_⟩
  unfold Expansion.warn
  rw [h.identity, hkey]
  rfl

/-! ## Runs -/

/-- The same request, or lines with the same steps to copy. -/
inductive Job.SameSteps : Job → Job → Prop
  | request {chain : Chain} {key : Text} : SameSteps (.request chain key) (.request chain key)
  | copy {chain : Chain} {dir : Text} {index : Nat} {lines lines' : List (Nat × Text)}
      {pending : Bool} : stepsOf lines' = stepsOf lines →
        SameSteps (.copy chain dir index lines pending) (.copy chain dir index lines' pending)

section

variable {r other : Registry} {rel : Memory → Memory → Prop} {m n : Memory} {key : Text}

/-- A registry that leads through the same steps is followed from any related memory. -/
theorem Registry.StepsAs.sideBySide (hr : r.StepsAs other rel) :
    SideBySide r other (fun _ => True) Job.SameSteps
      (fun s t => ∃ n, t = s.withMemory n ∧ rel s.memory n) Eq Eq where
  fails hjob hs _ hlocate := by
    obtain ⟨n, rfl, hrel⟩ := hs
    cases hjob
    obtain ⟨n', hlocate', hrel'⟩ := hr.locate_error hrel hlocate
    exact ⟨_, _, _, n', rfl, hlocate', rfl, n', rfl, hrel'⟩
  finds {chain key _ s _ target m} hjob hs _ hlocate := by
    obtain ⟨n, rfl, hrel⟩ := hs
    cases hjob
    obtain ⟨target', n', hlocate', hsame, hrel'⟩ := hr.locate_ok hrel hlocate
    have hbegin : ((s.withMemory n).withMemory n').begin target' =
        (((s.withMemory m).begin target).1, ((s.withMemory m).begin target).2.withMemory n') :=
      begin_withMemory (s.withMemory m) n' hsame
    obtain ⟨records, hmemory, hwarn⟩ := warn_withMemory (s.withMemory m) n' key hsame
    refine ⟨_, _, target', n', rfl, hlocate', ?_⟩
    constructor
    case current => rw [hsame.id]
    case begun =>
      rw [hsame.id]
      rfl
    case looked => exact ⟨n', rfl, hrel'⟩
    case refused => rfl
    case warned =>
      refine ⟨n'.report records, hwarn, ?_⟩
      rw [hmemory]
      exact hr.report hrel' records
    case entered =>
      rw [hbegin]
      refine ⟨n', rfl, ?_⟩
      rw [Expansion.memory_begin]
      exact hrel'
    case copied =>
      rw [hsame.id, hsame.name, hbegin]
      exact .copy hsame.steps
  ends hjob := by
    cases hjob with
    | copy hsteps =>
      obtain rfl := List.map_eq_nil_iff.mp hsteps
      exact ⟨_, _, _, _, rfl⟩
  includes hjob hkey := by
    cases hjob with
    | copy hsteps =>
      obtain ⟨line', rest', rfl, hstep, hrest⟩ := exists_cons_of_stepsOf hsteps
      rw [← (Include.key?_of_step_eq hstep).1] at hkey
      exact ⟨_, _, _, _, line', rest', _, _, rfl, hkey, .request, .copy hrest⟩
  copies hjob hkey := by
    cases hjob with
    | copy hsteps =>
      obtain ⟨line', rest', rfl, hstep, hrest⟩ := exists_cons_of_stepsOf hsteps
      obtain rfl := (Include.key?_of_step_eq hstep).2 hkey
      refine ⟨_, _, _, _, line', rest', _, rfl, hkey, .copy hrest, ?_⟩
      rintro tail _ rfl
      rfl
  nil := rfl
  append := by
    rintro inner _ tail _ rfl rfl
    rfl

/-! ## Expansions and compositions -/

/-- Registries that lead through the same steps give the same outcome for every key. -/
theorem Registry.StepsAs.expand (hr : r.StepsAs other rel) (h : rel m n) (key : Text) :
    (expand other key n).1 = (expand r key m).1 ∧
      rel (ShaderCompose.expand r key m).2 (ShaderCompose.expand other key n).2 := by
  obtain ⟨result, s, htraced, hexpand⟩ := expand_traced r key m
  obtain ⟨result', t, hfollowed, hresults, n', rfl, hrel⟩ :=
    htraced.follow hr.sideBySide (fun _ _ => trivial) .request ⟨n, rfl, h⟩
  have hrepeated : Runs other (.request [] key) (.start n) result' (s.withMemory n') := hfollowed
  rw [hexpand, expand_eq_of_runs hrepeated, hresults.eq]
  exact ⟨rfl, hrel⟩

end

/-- What is composed from a key is the expansion, written out. -/
theorem expandKey_eq (r : Registry) (key : Text) (m : Memory) :
    Composer.expandKey r key m =
      let outcome := expand r key (m.report [⟨.debug, "Composing ".toList ++ key⟩])
      (outcome.1.map fun expanded =>
        ⟨key, renderCode expanded.code, expanded.files, expanded.warnings⟩, outcome.2) := by
  unfold Composer.expandKey
  rcases expand r key (m.report [⟨.debug, "Composing ".toList ++ key⟩]) with ⟨result, m'⟩
  cases result <;> rfl

section

variable {r other : Registry} {rel : Memory → Memory → Prop} {m n : Memory}

/-- Registries that lead through the same steps give the same outcome for every value that is passed
as a key, a text or not. -/
theorem Registry.StepsAs.expandArgument (hr : r.StepsAs other rel) (h : rel m n)
    (key : Value) :
    (Composer.expandArgument other key n).1 = (Composer.expandArgument r key m).1 ∧
      rel (Composer.expandArgument r key m).2 (Composer.expandArgument other key n).2 := by
  cases key with
  | text t =>
    simp only [Composer.expandArgument, expandKey_eq]
    obtain ⟨hsame, hrel⟩ := hr.expand (hr.report h [⟨.debug, "Composing ".toList ++ t⟩]) t
    rw [hsame]
    exact ⟨rfl, hrel⟩
  | _ => exact ⟨rfl, hr.report h _⟩

/-- Registries that lead through the same steps compose the same, or fail alike, from related
memories. -/
theorem Registry.StepsAs.compose (hr : r.StepsAs other rel) (h : rel m n) (key : Value)
    (vars : Composer.Vars) :
    (Composer.compose other key vars n).1 = (Composer.compose r key vars m).1 ∧
      rel (Composer.compose r key vars m).2 (Composer.compose other key vars n).2 := by
  obtain ⟨hsame, hrel⟩ := hr.expandArgument h key
  unfold Composer.compose
  cases Composer.checkVars "ShaderComposer.compose" ["self", "effect_key"] vars with
  | error e => exact ⟨rfl, h⟩
  | ok _ =>
    rcases hfirst : Composer.expandArgument r key m with ⟨result, m'⟩
    rcases hsecond : Composer.expandArgument other key n with ⟨result', n'⟩
    rw [hfirst, hsecond] at hsame hrel
    obtain rfl : result' = result := hsame
    cases result' with
    | error e => exact ⟨rfl, hrel⟩
    | ok c => exact ⟨rfl, hrel⟩

/-- Registries that answer alike compose the same, or fail alike, from related memories. -/
theorem Registry.AnswersAs.compose (hr : r.AnswersAs other rel) (h : rel m n) (key : Value)
    (vars : Composer.Vars) :
    (Composer.compose other key vars n).1 = (Composer.compose r key vars m).1 ∧
      rel (Composer.compose r key vars m).2 (Composer.compose other key vars n).2 :=
  hr.stepsAs.compose h key vars

end

end ShaderCompose
