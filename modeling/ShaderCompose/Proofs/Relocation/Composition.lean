import ShaderCompose.Notice
import ShaderCompose.Proofs.Relocation.Keys
import ShaderCompose.Proofs.Transparency

/-!
# Composing from another directory

A key can be composed from inside a directory or from outside of it, with the directory in front of
the key.  The two expansions go side by side: at every include their keys are alike, so they stand
for the same source files, and the states differ in nothing but how names and keys are spelled.  So
both give the same code, or fail in the same way.
-/

set_option autoImplicit false

namespace ShaderCompose

/-! ## Outcomes that agree -/

/-- The kind of notice that an effect error belongs to. -/
def EffectError.kind : EffectError → NoticeKind
  | .sourceNotFound _ _ => .sourceNotFound
  | .sourceUnavailable _ _ _ => .sourceUnavailable
  | .sectionNotFound _ _ _ => .sectionNotFound
  | .cyclicInclude _ => .cyclicInclude
  | .invalidKey _ => .invalidKey
  | .template _ => .templateError
  | .general _ => .effectError

/-- Failures of the same class: effect errors of the same kind, or the same failure. -/
inductive Failure.SameClass : Failure → Failure → Prop
  | effect {e f : EffectError} : e.kind = f.kind → SameClass (.effect e) (.effect f)
  | same {e : Failure} : SameClass e e

/-- Two outcomes agree if both are results that are related or both are failures of the same
class. -/
inductive Agree {α β : Type} (R : α → β → Prop) : Except Failure α → Except Failure β → Prop
  | ok {a : α} {b : β} : R a b → Agree R (.ok a) (.ok b)
  | error {e f : Failure} : e.SameClass f → Agree R (.error e) (.error f)

/-- Outcomes that are the same failure or related results agree. -/
theorem Parallel.agree {α β : Type} {R : α → β → Prop} {x : Except Failure α}
    {y : Except Failure β} (h : Parallel R x y) : Agree R x y := by
  cases h with
  | ok hab => exact .ok hab
  | error => exact .error .same

/-- Outcomes that agree are paired by the classes of failures. -/
theorem Agree.paired {α β : Type} {R : α → β → Prop} {x : Except Failure α}
    {y : Except Failure β} (h : Agree R x y) : Paired Failure.SameClass R x y := by
  cases h with
  | ok hab => exact .ok hab
  | error hsame => exact .error hsame

/-- Outcomes that are paired by the classes of failures agree. -/
theorem Paired.agree {α β : Type} {R : α → β → Prop} {x : Except Failure α}
    {y : Except Failure β} (h : Paired Failure.SameClass R x y) : Agree R x y := by
  cases h with
  | ok hab => exact .ok hab
  | error hsame => exact .error hsame

/-- Functions that take related results to related ones keep outcomes in agreement. -/
theorem Agree.map {α β γ δ : Type} {R : α → β → Prop} {S : γ → δ → Prop}
    {x : Except Failure α} {y : Except Failure β} (h : Agree R x y) {f : α → γ} {g : β → δ}
    (hmap : ∀ a b, R a b → S (f a) (g b)) : Agree S (x.map f) (y.map g) := by
  cases h with
  | ok hab => exact .ok (hmap _ _ hab)
  | error hsame => exact .error hsame

/-- Operations that may fail, and agree on related results, keep outcomes in agreement. -/
theorem Agree.bind {α β γ δ : Type} {R : α → β → Prop} {S : γ → δ → Prop}
    {x : Except Failure α} {y : Except Failure β} (h : Agree R x y) {f : α → Except Failure γ}
    {g : β → Except Failure δ} (hbind : ∀ a b, R a b → Agree S (f a) (g b)) :
    Agree S (x.bind f) (y.bind g) := by
  cases h with
  | ok hab => exact hbind _ _ hab
  | error hsame => exact .error hsame

/-- Every outcome agrees with itself. -/
theorem Agree.refl {α : Type} (x : Except Failure α) : Agree Eq x x := by
  cases x with
  | ok a => exact .ok rfl
  | error e => exact .error .same

/-- Failures that are in the class of a third one are in one class. -/
theorem Failure.SameClass.trans {e f g : Failure} (h : e.SameClass f) (h' : f.SameClass g) :
    e.SameClass g := by
  cases h with
  | same => exact h'
  | effect hkind =>
    cases h' with
    | same => exact .effect hkind
    | effect hkind' => exact .effect (hkind.trans hkind')

/-- Agreement carries over to outcomes that have the same result or fail in the same class. -/
theorem Agree.trans_eq {α β : Type} {R : α → β → Prop} {x : Except Failure α}
    {y z : Except Failure β} (h : Agree R x y) (h' : Agree Eq y z) : Agree R x z := by
  cases h with
  | ok hab =>
    cases h' with
    | ok heq => exact .ok (heq ▸ hab)
  | error hsame =>
    cases h' with
    | error hsame' => exact .error (hsame.trans hsame')

/-- If one of two outcomes that agree is a result with some property, both are results. -/
theorem Agree.exists_of_any {α β : Type} {R : α → β → Prop} {x : Except Failure α}
    {y : Except Failure β} (h : Agree R x y) (test : α → Bool)
    (hx : x.toOption.any test = true) : ∃ a b, x = .ok a ∧ y = .ok b ∧ test a = true ∧ R a b := by
  cases h with
  | ok hab => exact ⟨_, _, rfl, rfl, hx, hab⟩
  | error _ => simp [Except.toOption] at hx

/-- Of outcomes that agree, both are results or none is. -/
theorem Agree.isSome_toOption {α β : Type} {R : α → β → Prop} {x : Except Failure α}
    {y : Except Failure β} (h : Agree R x y) : y.toOption.isSome = x.toOption.isSome := by
  cases h with
  | ok _ => rfl
  | error _ => rfl

/-! ## Files in the same place -/

/-- Files in the same place, whatever they are called. -/
structure SourceFile.SamePlace (file other : SourceFile) : Prop where
  location : other.location = file.location
  package : other.package = file.package
  workDir : other.workDir = file.workDir

/-- Files in the same place have the same identity. -/
theorem SourceFile.SamePlace.identity {file other : SourceFile} (h : file.SamePlace other) :
    other.identity = file.identity := by
  unfold SourceFile.identity
  rw [h.location, h.package, h.workDir]

/-- A reader has both of two files in the same place, or none of them. -/
theorem SourceFile.SamePlace.has {file other : SourceFile} (h : file.SamePlace other)
    (reader : Reader) : reader.has other = reader.has file := by
  unfold Reader.has
  rw [h.location, h.package, h.workDir]

/-- The same is read of two files in the same place, and where reading fails the failures are in one
class. -/
theorem SourceFile.SamePlace.read {file other : SourceFile} (h : file.SamePlace other)
    {r r' : Registry} (hreader : r'.reader = r.reader) :
    Agree Eq (r.read file) (r'.read other) := by
  have hcontent : r'.reader.read other = r.reader.read file := by
    rw [hreader]
    unfold Reader.read
    rw [h.location, h.package, h.workDir]
  unfold Registry.read
  simp only [Reader.sourceReader_read]
  rw [hcontent, h.package, h.location]
  cases r.reader.read file with
  | failed f =>
    dsimp only
    split
    · exact .error (.effect rfl)
    · exact .error .same
  | missing =>
    cases file.package with
    | none => exact .error (.effect rfl)
    | some package => exact .error (.effect rfl)
  | other kind => exact .error .same
  | text t => exact .ok rfl
  | bytes data =>
    dsimp only
    cases (ReadOutcome.bytes data).decode with
    | ok t => exact .ok rfl
    | error e => exact .error (.effect rfl)

/-! ## Effects that can be moved -/

/-- A key that means the same section wherever the directory in front of it is seen from. -/
def PortableKey (key : Text) : Prop :=
  key.Plain ∧ (EffectKey.split? (Path.normalize key)).isSome

/-- The keys that the sections of a text include. -/
def includeKeysOf (text : Text) : List Text :=
  (blocksOf text).flatMap fun block => block.body.filterMap Include.key?

/-- Lines that include portable keys only. -/
def PortableLines (lines : List (Nat × Text)) : Prop :=
  ∀ entry ∈ lines, ∀ key, Include.key? entry.2 = some key → PortableKey key

/-- An effect whose sections include portable keys only. -/
def Effect.Portable (effect : Effect) : Prop := ∀ found ∈ effect.sections, PortableLines found.lines

/-- If a text includes portable keys only, then so does the effect that it is parsed to. -/
theorem Effect.portable_parse {text : Text} (h : ∀ key ∈ includeKeysOf text, PortableKey key)
    (identity : Text) (origin : Option SourceFile) : (parse text identity origin).Portable := by
  intro found hfound entry hentry key hkey
  obtain ⟨block, hblock, rfl⟩ := Effect.mem_sections_parse hfound
  rw [lines_toSection hblock] at hentry
  obtain ⟨i, -, hline⟩ := Text.mem_numberLines.mp hentry
  refine h key (List.mem_flatMap.mpr ⟨block, hblock, List.mem_filterMap.mpr ⟨entry.2, ?_, hkey⟩⟩)
  exact List.mem_of_getElem? hline

/-- Effects on both sides: the same up to the origin, and portable. -/
def Effect.Twins (effect other : Effect) : Prop := other.bare = effect.bare ∧ effect.Portable

/-- Effects on both sides have the same identity. -/
theorem Effect.Twins.identity {effect other : Effect} (h : effect.Twins other) :
    other.identity = effect.identity := by
  have hbare : other.bare.identity = effect.bare.identity := by rw [h.1]
  exact hbare

/-- Effects that are loaded on both sides: the same up to the origin, and portable. -/
def Loaded.Twins (loaded other : Loaded) : Prop :=
  other.effect.bare = loaded.effect.bare ∧ loaded.effect.Portable

/-- Caches on both sides, which hold twin effects under the same identities. -/
def Cache.Twins (cache other : Cache) : Prop :=
  ∀ identity, Option.Rel Loaded.Twins (cache.get? identity) (other.get? identity)

/-- Caches that hold nothing are twins. -/
theorem Cache.twins_empty : Cache.empty.Twins Cache.empty := by
  intro identity
  exact .none

/-! ## Finding targets from inside and outside -/

/-- Targets on both sides: sections with the same lines in the same place, and names that are
alike. -/
structure Target.Twins (d : Text) (target other : Target) : Prop where
  name : Path.Alike d target.name other.name
  location : other.file.location = target.file.location
  identity : other.effect.identity = target.effect.identity
  found : other.found = target.found
  portable : PortableLines target.found.lines

/-- Nothing is declared, and whatever can be read includes portable keys only. -/
structure Registry.Movable (r : Registry) : Prop where
  undeclared : r.declarations = []
  portable {name location text : Text} : r.read (r.fileAt name location) = .ok text →
    ∀ key ∈ includeKeysOf text, PortableKey key

section

variable {r : Registry} {d : Text}

/-- Where nothing is declared, a plain name resolves to the file at its default location if there is
one, and to nothing else. -/
theorem Registry.resolve_of_undeclared (hr : r.declarations = []) {name : Text}
    (hplain : name.Plain) :
    r.resolve name = if r.reader.has (r.fileAt name (r.defaultLocation name)) then
        .ok (r.fileAt name (r.defaultLocation name))
      else .error (.effect (.sourceNotFound name (some ("no declaration and no file at '".toList ++
        r.defaultLocation name ++ ['\''])))) := by
  unfold Registry.resolve Registry.findDeclaration
  rw [Text.replaceChar_of_plain hplain, hr]
  exact r.firstExisting_singleton name _ _

/-- Alike names resolve to files in the same place, or to nothing on both sides. -/
theorem Path.Alike.resolve {name other : Text} (h : Path.Alike d name other)
    (hr : r.declarations = []) (hd : Path.isAbsolute d = false) (hname : Path.lastPart name ≠ []) :
    Agree (fun file file' => ∃ location, file = r.fileAt name location ∧
      file' = r.fileAt other location) ((r.inside d).resolve name) (r.resolve other) := by
  have hlocation := h.defaultLocation hd hname r
  rw [Registry.resolve_of_undeclared hr h.plain_other,
    Registry.resolve_of_undeclared (r := r.inside d) hr h.plain, hlocation]
  have hplace : ((r.inside d).fileAt name (r.defaultLocation other)).SamePlace
      (r.fileAt other (r.defaultLocation other)) := ⟨rfl, rfl, rfl⟩
  rw [hplace.has r.reader]
  change Agree _ (if r.reader.has _ then _ else _) _
  split
  · exact .ok ⟨r.defaultLocation other, rfl, rfl⟩
  · exact .error (.effect rfl)

/-- Effects on both sides select the same section, with portable lines. -/
theorem Effect.SelectAlike.twins :
    SelectAlike Effect.Twins fun found other => other = found ∧ PortableLines found.lines where
  identity h := h.identity
  bestSection {effect other} h requested := by
    obtain ⟨hbare, hportable⟩ := h
    rw [← other.bestSection_bare, hbare, effect.bestSection_bare]
    cases hfound : effect.bestSection requested with
    | none => exact .none
    | some found => exact .some ⟨rfl, hportable found (Effect.mem_of_bestSection hfound)⟩

/-- Files in the same place are loaded as the same effect on both sides. -/
theorem SourceFile.SamePlace.load {file other : SourceFile} (h : file.SamePlace other)
    {m n : Memory} (hm : m.cache.Twins n.cache) (near far : Registry)
    (hreader : far.reader = near.reader)
    (hportable : ∀ text, near.read file = .ok text → ∀ key ∈ includeKeysOf text, PortableKey key) :
    PairedAnswers Failure.SameClass Loaded.Twins Cache.Twins (m.load near file)
      (n.load far other) := by
  have hparsed : Paired Failure.SameClass
      (fun text text' => (Effect.parse text file.identity (some file)).Twins
        (Effect.parse text' file.identity (some other))) (near.read file) (far.read other) := by
    have hread := h.read hreader
    generalize hresult : near.read file = result at hread
    generalize far.read other = result' at hread
    cases hread with
    | error hsame => exact .error hsame
    | @ok text _ htext =>
      subst htext
      refine .ok ⟨?_, Effect.portable_parse (hportable text hresult) file.identity (some file)⟩
      rw [Effect.bare_parse, Effect.bare_parse]
  exact Memory.load_paired (E := Effect.Twins) h.identity hm (hm file.identity) hparsed
    fun htwins => Cache.Matches.insert (E := Effect.Twins) hm htwins file.identity

/-- Alike keys stand for the same section on both sides, or both fail to. -/
theorem Path.Alike.locate {key other : Text} (h : Path.Alike d key other) (hr : r.Movable)
    (hd : Path.isAbsolute d = false) {m n : Memory} (hm : m.cache.Twins n.cache) :
    PairedAnswers Failure.SameClass (Target.Twins d) Cache.Twins (locate (r.inside d) key m)
      (locate r other n) := by
  have hsource : Paired Failure.SameClass
      (fun parts parts' => parts'.sectionKey = parts.sectionKey ∧
        Paired Failure.SameClass (fun file file' => Path.Alike d parts.source parts'.source ∧
            ∃ location, file = r.fileAt parts.source location ∧
              file' = r.fileAt parts'.source location)
          ((r.inside d).resolve parts.source) (r.resolve parts'.source))
      (EffectKey.split key) (EffectKey.split other) := by
    unfold EffectKey.split
    rcases h.split? with ⟨hsplit, hsplit'⟩ |
      ⟨name, name', sectionKey, hsplit, hsplit', hnames, hname⟩
    · rw [hsplit, hsplit']
      exact .error (.effect rfl)
    · rw [hsplit, hsplit']
      exact .ok ⟨rfl, (hnames.resolve hr.undeclared hd hname).paired.mono fun _ _ hfiles =>
        ⟨hnames, hfiles⟩⟩
  refine (locate_paired .twins hm (P := fun name name' file file' => Path.Alike d name name' ∧
    ∃ location, file = r.fileAt name location ∧ file' = r.fileAt name' location)
    hsource ?_ fun _ _ => .effect rfl).mono ?_
  · rintro name name' _ _ ⟨-, location, rfl, rfl⟩
    have hplace : (r.fileAt name location).SamePlace (r.fileAt name' location) := ⟨rfl, rfl, rfl⟩
    exact hplace.load hm (r.inside d) r rfl fun text hread => hr.portable hread
  · rintro target twin ⟨⟨hnames, location, hfile, hfile'⟩, htwins, hfound, hportable⟩
    exact ⟨hnames, by rw [hfile, hfile']; rfl, htwins.identity, hfound, hportable⟩

/-- Of alike keys, if the one inside the directory is found, then so is the one outside, as its
twin. -/
theorem Path.Alike.locate_ok {key other : Text} (h : Path.Alike d key other) (hr : r.Movable)
    (hd : Path.isAbsolute d = false) {m n m' : Memory} (hm : m.cache.Twins n.cache)
    {target : Target} (hlocate : ShaderCompose.locate (r.inside d) key m = (.ok target, m')) :
    ∃ twin n', ShaderCompose.locate r other n = (.ok twin, n') ∧ target.Twins d twin ∧
      m'.cache.Twins n'.cache := by
  have hanswers := h.locate hr hd hm
  rw [hlocate] at hanswers
  exact hanswers.of_ok

/-- If the key inside the directory is not found, then neither is the one outside, with a failure of
the same class. -/
theorem Path.Alike.locate_error {key other : Text} (h : Path.Alike d key other) (hr : r.Movable)
    (hd : Path.isAbsolute d = false) {m n m' : Memory} (hm : m.cache.Twins n.cache)
    {e : Failure} (hlocate : ShaderCompose.locate (r.inside d) key m = (.error e, m')) :
    ∃ f n', ShaderCompose.locate r other n = (.error f, n') ∧ e.SameClass f ∧
      m'.cache.Twins n'.cache := by
  have hanswers := h.locate hr hd hm
  rw [hlocate] at hanswers
  exact hanswers.of_error

/-! ## Expansions side by side -/

/-- States of an expansion on both sides. -/
structure Expansion.Twins (s t : Expansion) : Prop where
  caches : s.memory.cache.Twins t.memory.cache
  expanded : t.expanded = s.expanded
  indices : t.indices = s.indices
  locations : t.files.map SourceFile.location = s.files.map SourceFile.location
  warnings : t.warnings.length = s.warnings.length

/-- Jobs on both sides: requests for alike keys, or the same lines with includes that are relative
to one directory, seen from inside and from outside. -/
inductive Job.Alike (d : Text) : Job → Job → Prop
  | request {chain chain' : Chain} {key key' : Text} :
      chain'.map Prod.fst = chain.map Prod.fst → Path.Alike d key key' →
        Job.Alike d (.request chain key) (.request chain' key')
  | copy {chain chain' : Chain} {dir dir' : Text} {index : Nat} {lines : List (Nat × Text)}
      {pending : Bool} :
      chain'.map Prod.fst = chain.map Prod.fst → Path.Seen d dir dir' → dir.Plain → dir'.Plain →
      PortableLines lines →
        Job.Alike d (.copy chain dir index lines pending) (.copy chain' dir' index lines pending)

/-- Twin states stay twins when the memory is replaced on both sides and the new caches are
twins. -/
theorem Expansion.Twins.withMemory {s t : Expansion} (h : s.Twins t) {m n : Memory}
    (hcaches : m.cache.Twins n.cache) : (s.withMemory m).Twins (t.withMemory n) :=
  ⟨hcaches, h.expanded, h.indices, h.locations, h.warnings⟩

/-- Noting a repeated request on both sides keeps twin states twins, whatever the keys are
called. -/
theorem Expansion.Twins.warn {s t : Expansion} (h : s.Twins t) (target other : Target)
    (key key' : Text) : (s.warn target key).Twins (t.warn other key') := by
  refine ⟨h.caches, h.expanded, h.indices, h.locations, ?_⟩
  rw [Expansion.warnings_warn, Expansion.warnings_warn, List.length_append, List.length_append,
    h.warnings]
  rfl

/-- A section is begun in the same way on both sides. -/
theorem Expansion.Twins.begin {s t : Expansion} (h : s.Twins t) {target other : Target}
    (htargets : target.Twins d other) :
    (t.begin other).1 = (s.begin target).1 ∧ (s.begin target).2.Twins (t.begin other).2 := by
  have hlength : t.files.length = s.files.length := by
    simpa using congrArg List.length h.locations
  have hindices : t.indices.lookup other.effect.identity =
      s.indices.lookup target.effect.identity := by
    rw [h.indices, htargets.identity]
  cases hlookup : s.indices.lookup target.effect.identity with
  | some index =>
    rw [hlookup] at hindices
    rw [Expansion.begin_of_lookup hlookup, Expansion.begin_of_lookup hindices]
    exact ⟨rfl, h.caches, by simp [h.expanded, htargets.found], h.indices, h.locations, h.warnings⟩
  | none =>
    rw [hlookup] at hindices
    rw [Expansion.begin_of_lookup_none hlookup, Expansion.begin_of_lookup_none hindices]
    refine ⟨hlength, h.caches, by simp [h.expanded, htargets.found], ?_, ?_, h.warnings⟩
    · simp [h.indices, htargets.identity, hlength]
    · simp [h.locations, htargets.location]

/-- An expansion from inside the directory goes side by side with one from outside. -/
theorem Registry.Movable.sideBySide (hr : r.Movable) (hd : Path.isAbsolute d = false) :
    SideBySide (r.inside d) r (fun _ => True) (Job.Alike d) Expansion.Twins Failure.SameClass
      Eq where
  fails hjob hs _ hlocate := by
    cases hjob with
    | request hchain hkeys =>
      obtain ⟨f, n', hlocate', hsame, hcaches⟩ := hkeys.locate_error hr hd hs.caches hlocate
      exact ⟨_, _, f, n', rfl, hlocate', hsame, hs.withMemory hcaches⟩
  finds hjob hs _ hlocate := by
    cases hjob with
    | request hchain hkeys =>
      obtain ⟨twin, n', hlocate', htwins, hcaches⟩ := hkeys.locate_ok hr hd hs.caches hlocate
      have hlooked := hs.withMemory hcaches
      obtain ⟨hindex, hbegun⟩ := hlooked.begin htwins
      refine ⟨_, _, twin, n', rfl, hlocate', ?_⟩
      constructor
      case current => rw [htwins.found, hchain]
      case begun => rw [htwins.found, hlooked.expanded]
      case looked => exact hlooked
      case refused => exact .effect rfl
      case warned => exact hlooked.warn _ _ _ _
      case entered => exact hbegun
      case copied =>
        rw [hindex, htwins.found]
        exact .copy (by simp [hchain]) htwins.name.seen
          (htwins.name.plain.mono fun c => Path.mem_of_mem_directory)
          (htwins.name.plain_other.mono fun c => Path.mem_of_mem_directory) htwins.portable
  ends hjob := by
    cases hjob with
    | copy => exact ⟨_, _, _, _, rfl⟩
  includes hjob hkey := by
    cases hjob with
    | copy hchain hseen hdir hdir' hlines =>
      obtain ⟨hplain, hsplit⟩ := hlines _ List.mem_cons_self _ hkey
      have hlater := fun entry hentry => hlines entry (List.mem_cons_of_mem _ hentry)
      -- inside and outside, the key is relative to one and the same directory
      exact ⟨_, _, _, _, _, _, _, _, rfl, hkey,
        .request hchain (hseen.include hdir hdir' hplain hsplit),
        .copy hchain hseen hdir hdir' hlater⟩
  copies hjob hkey := by
    cases hjob with
    | copy hchain hseen hdir hdir' hlines =>
      have hlater := fun entry hentry => hlines entry (List.mem_cons_of_mem _ hentry)
      refine ⟨_, _, _, _, _, _, _, rfl, hkey, .copy hchain hseen hdir hdir' hlater, ?_⟩
      rintro tail _ rfl
      rfl
  nil := rfl
  append := by
    rintro inner _ tail _ rfl rfl
    rfl

/-! ## Compositions side by side -/

/-- Expansions of alike keys from inside and outside of the directory agree in their code, the
locations of the source files and the number of warnings. -/
theorem expand_alongside (hr : r.Movable) (hd : Path.isAbsolute d = false) {m n : Memory}
    (hm : m.cache.Twins n.cache) {key other : Text} (hkeys : Path.Alike d key other) :
    Agree (fun near far : Expanded => far.code = near.code ∧
        far.files.map SourceFile.location = near.files.map SourceFile.location ∧
        far.warnings.length = near.warnings.length)
      (expand (r.inside d) key m).1 (expand r other n).1 := by
  obtain ⟨result, s, htraced, hexpand⟩ := expand_traced (r.inside d) key m
  have hstart : (Expansion.start m).Twins (.start n) := ⟨hm, rfl, rfl, rfl, rfl⟩
  obtain ⟨result', t, hruns, hresults, ht⟩ :=
    htraced.follow (hr.sideBySide hd) (fun _ _ => trivial) (.request rfl hkeys) hstart
  rw [hexpand, expand_eq_of_runs hruns]
  refine hresults.agree.map ?_
  rintro code _ rfl
  exact ⟨rfl, ht.locations, ht.warnings⟩

/-- Compositions on both sides: the same code, locations of source files and number of warnings. -/
def Composed.Twins (near far : Composed) : Prop :=
  far.code = near.code ∧ far.locations = near.locations ∧
    far.warnings.length = near.warnings.length

/-- Compositions with the same code are filled in with the same code. -/
theorem Composer.fillIn_agree {R : Composed → Composed → Prop} {near far : Composed}
    (hcode : far.code = near.code) (hsame : R near far)
    (hfilled : ∀ code, R (near.withCode code) (far.withCode code)) (vars : Composer.Vars) :
    Agree R (Composer.fillIn near vars) (Composer.fillIn far vars) := by
  unfold Composer.fillIn
  split
  · exact .ok hsame
  · rw [hcode]
    cases Template.fill near.code vars with
    | error e => exact .error .same
    | ok code => exact .ok (hfilled code)

/-- Filling in variables takes compositions on both sides to agreeing outcomes. -/
theorem Composed.Twins.fillIn {near far : Composed} (h : near.Twins far) (vars : Composer.Vars) :
    Agree Composed.Twins (Composer.fillIn near vars) (Composer.fillIn far vars) :=
  Composer.fillIn_agree h.1 h (fun _ => ⟨rfl, h.2⟩) vars

end

/-- What is composed from a key: its expansion, written out and filled in. -/
theorem compose_text (r : Registry) (key : Text) (vars : Composer.Vars) (m : Memory) :
    (Composer.compose r (.text key) vars m).1 =
      (Composer.checkVars "ShaderComposer.compose" ["self", "effect_key"] vars).bind fun _ =>
        ((expand r key (m.report [⟨.debug, "Composing ".toList ++ key⟩])).1.map fun expanded =>
          ⟨key, renderCode expanded.code, expanded.files, expanded.warnings⟩).bind fun c =>
            Composer.fillIn c vars := by
  unfold Composer.compose Composer.expandArgument
  cases Composer.checkVars "ShaderComposer.compose" ["self", "effect_key"] vars with
  | error e => rfl
  | ok _ =>
    simp only [expandKey_eq]
    cases (expand r key (m.report [⟨.debug, "Composing ".toList ++ key⟩])).1 with
    | error e => rfl
    | ok expanded => rfl

/-- With nothing declared, a relative key that is composed under a base directory with `d` behind it
and the key with `d` in front of it that is composed under the base directory itself agree: both
give the same code, the same locations of source files and the same number of warnings, or both fail
with an error of the same class.  What the files include may lead out of `d` and out of the base
directory, and may be absolute. -/
theorem compose_relocated (r : Registry) (d key : Text) (hdeclared : r.declarations = [])
    (hd : Path.isAbsolute d = false) (hkey : Path.isAbsolute key = false) (hplain : d.Plain)
    (hplainKey : key.Plain)
    (hincludes : ∀ name location text, r.read (r.fileAt name location) = .ok text →
      ∀ included ∈ includeKeysOf text,
        included.Plain ∧ (EffectKey.split? (Path.normalize included)).isSome)
    (vars : Composer.Vars) :
    Agree (fun near far => far.code = near.code ∧ far.locations = near.locations ∧
        far.warnings.length = near.warnings.length)
      (Composer.compose { r with baseDir := Path.join r.baseDir d } (.text key) vars
        ⟨.empty, [], []⟩).1
      (Composer.compose r (.text (Path.join d key)) vars ⟨.empty, [], []⟩).1 := by
  have hr : r.Movable := ⟨hdeclared, fun hread => hincludes _ _ _ hread⟩
  have hkeys := Path.Alike.of_join hd hkey hplain hplainKey
  rw [compose_text, compose_text]
  refine (Agree.refl _).bind ?_
  rintro _ _ -
  have hcomposed : ∀ m n : Memory, m.cache.Twins n.cache → Agree Composed.Twins
      ((expand (r.inside d) key m).1.map fun expanded =>
        ⟨key, renderCode expanded.code, expanded.files, expanded.warnings⟩)
      ((expand r (Path.join d key) n).1.map fun expanded =>
        ⟨Path.join d key, renderCode expanded.code, expanded.files, expanded.warnings⟩) := by
    intro m n hm
    refine (expand_alongside hr hd hm hkeys).map ?_
    rintro near far ⟨hcode, hlocations, hwarnings⟩
    exact ⟨congrArg renderCode hcode, hlocations, hwarnings⟩
  refine (hcomposed _ _ ?_).bind fun near far htwins => htwins.fillIn vars
  exact Cache.twins_empty

/-- What is read from the working directory is one of the texts that the reader has. -/
theorem Registry.mem_holdings_of_workDir {r : Registry} {file : SourceFile} {text : Text}
    (hdir : file.workDir = r.workDir) (h : r.read file = .ok text) : text ∈ r.reader.holdings := by
  obtain ⟨identities, hmem, -⟩ := Registry.exists_mem_stock hdir h
  rw [← Registry.map_snd_stock]
  exact List.mem_map.mpr ⟨_, hmem, rfl⟩

/-- What is read of a file is one of the texts that the reader holds. -/
theorem mem_holdings_of_read {r : Registry} {name location text : Text}
    (h : r.read (r.fileAt name location) = .ok text) : text ∈ r.reader.holdings :=
  Registry.mem_holdings_of_workDir rfl h

/-- Files that include each other out of a directory, inside it, and by an absolute path. -/
def waterScene : Registry :=
  ⟨[], "lib".toList, "glsl".toList,
    .table [("lib/fx/deep/water.glsl".toList,
        .text "-- main\n#include \"../../noise.hash\"\n#include \".//wave.swell\"\nw\n".toList),
      ("lib/noise.glsl".toList, .text "-- hash\n#include \"fx/deep/wave.swell\"\nn\n".toList),
      ("lib/fx/deep/wave.glsl".toList, .text "-- swell\n#include \"/sea/foam.all\"\ns\n".toList),
      ("/sea/foam.glsl".toList, .text "-- all\nf\n".toList)],
    "/work".toList⟩

/-- The directory from inside which the water is composed. -/
def waterDir : Text := "fx/deep".toList

/-- The key by which it is composed there. -/
def waterKey : Text := "water.main".toList

/-- The water is composed to the same from inside the directory and from outside of it. -/
theorem compose_relocated_water :
    ∃ near far,
      (Composer.compose { waterScene with baseDir := Path.join waterScene.baseDir waterDir }
        (.text waterKey) [] ⟨.empty, [], []⟩).1 = .ok near ∧
      (Composer.compose waterScene (.text (Path.join waterDir waterKey)) [] ⟨.empty, [], []⟩).1 =
        .ok far ∧
      near.files.length = 4 ∧ near.warnings.length = 1 ∧
      far.code = near.code ∧ far.locations = near.locations ∧
      far.warnings.length = near.warnings.length := by
  have hportable : ∀ text ∈ waterScene.reader.holdings, ∀ key ∈ includeKeysOf text,
      key.Plain ∧ (EffectKey.split? (Path.normalize key)).isSome := by
    decide +kernel
  have hagree := compose_relocated waterScene waterDir waterKey rfl (by decide +kernel)
    (by decide +kernel) (by decide +kernel) (by decide +kernel)
    (fun name location text hread => hportable text (mem_holdings_of_read hread)) []
  obtain ⟨near, m', hnear, htest⟩ := exists_of_any
    (Composer.compose { waterScene with baseDir := Path.join waterScene.baseDir waterDir }
      (.text waterKey) [] ⟨.empty, [], []⟩)
    (fun near => near.files.length == 4 && near.warnings.length == 1) (by decide +kernel)
  obtain ⟨hfiles, hwarnings⟩ := Bool.and_eq_true_iff.mp htest
  rw [hnear] at hagree
  generalize hfar :
    (Composer.compose waterScene (.text (Path.join waterDir waterKey)) [] ⟨.empty, [], []⟩).1 =
      outcome at hagree
  cases hagree with
  | ok hsame =>
    exact ⟨near, _, by rw [hnear], rfl, by simpa using hfiles, by simpa using hwarnings, hsame⟩

end ShaderCompose
