import ShaderCompose.Session
import ShaderCompose.Proofs.Transparency

/-!
# What a session has loaded does not show

Whatever is requested of a session, and whether it succeeds or fails, the cache stays a mirror of
the sources.  So each composition comes out as in a session that has loaded nothing, and each stage
of a program as it does alone.
-/

set_option autoImplicit false

namespace ShaderCompose

/-- A request to a session that leaves its sources as they are. -/
inductive Request where
  | compose (key : Value) (vars : Composer.Vars)
  | program (stages : List (Value × Value)) (vars : Composer.Vars)
  | load (source : SourceArgument)
  | clear
  | declare (declaration : DeclarationArgument)

namespace Session

/-- The session after a request, whether it succeeds or fails. -/
def perform (s : Session) : Request → Session
  | .compose key vars => (s.compose key vars).2
  | .program stages vars => (s.program stages vars).2
  | .load source => (s.load source).2
  | .clear => s.clear
  | .declare declaration => (s.declare declaration).2

/-- The session after some requests. -/
def after (s : Session) (requests : List Request) : Session := requests.foldl perform s

/-- A session with a new composer, which has the registry of the old one and has loaded nothing. -/
def renewed (s : Session) : Session := s.moveOn s.studio.registry s.studio.live

/-- The source files that come up in a session: those that names resolve to before or after a
request, and those that are loaded on request. -/
def Meets : Session → List Request → SourceFile → Prop
  | s, [], file => ∃ name, s.studio.registry.resolve name = .ok file
  | s, request :: rest, file =>
    (∃ name, s.studio.registry.resolve name = .ok file) ∨
      (∃ source, request = .load source ∧ s.expectFile source = .ok file) ∨
      Meets (s.perform request) rest file

/-- A session whose registry is consistent and whose cache mirrors the sources. -/
structure Mirrored (s : Session) (known : SourceFile → Prop) : Prop where
  consistent : s.studio.registry.Consistent known
  mirrors : s.studio.cache.Mirrors s.studio.registry known

section

variable {s : Session} {known : SourceFile → Prop}

/-- Running an operation keeps the registry, and a mirror if the operation does. -/
theorem Mirrored.run {α : Type} (hs : s.Mirrored known)
    {f : Registry → Memory → Except Failure α × Memory}
    (hf : ∀ m : Memory, m.cache.Mirrors s.studio.registry known →
      (f s.studio.registry m).2.cache.Mirrors s.studio.registry known) :
    (s.run f).2.Mirrored known :=
  ⟨hs.consistent, hf ⟨s.studio.cache, s.reads, s.journal⟩ hs.mirrors⟩

/-- Remembering an outcome does not change the studio of a session. -/
theorem studio_remember (outcome : Except Failure Composed × Session) :
    (remember outcome).2.studio = outcome.2.studio := by
  obtain ⟨result, s⟩ := outcome
  cases result <;> rfl

/-- Remembering an outcome does not change what it is. -/
theorem remember_fst (outcome : Except Failure Composed × Session) :
    (remember outcome).1 = outcome.1 := by
  obtain ⟨result, s⟩ := outcome
  cases result <;> rfl

/-- Whether a session is mirrored depends on its studio only. -/
theorem mirrored_of_studio_eq {t : Session} (h : t.studio = s.studio) (hs : s.Mirrored known) :
    t.Mirrored known := by
  obtain ⟨hconsistent, hmirrors⟩ := hs
  rw [← h] at hconsistent hmirrors
  exact ⟨hconsistent, hmirrors⟩

/-- A composition keeps a session mirrored, whether it succeeds or fails. -/
theorem Mirrored.compose (hs : s.Mirrored known) (key : Value) (vars : Composer.Vars) :
    (s.compose key vars).2.Mirrored known := by
  refine mirrored_of_studio_eq (studio_remember _) (hs.run ?_)
  exact fun m hm => (compose_of_mirrors hs.consistent hm hm key vars).2

/-- The composition of a program keeps a session mirrored. -/
theorem Mirrored.program (hs : s.Mirrored known) (stages : List (Value × Value))
    (vars : Composer.Vars) : (s.program stages vars).2.Mirrored known := by
  unfold Session.program
  split
  · exact hs
  · refine hs.run ?_
    exact fun m hm => (composeProgram_of_mirrors hs.consistent hm hm _ vars).1

/-- Giving an effect its number does not change the studio. -/
theorem studio_numberOf (s : Session) (loaded : Loaded) :
    (s.numberOf loaded).2.studio = s.studio := by
  unfold numberOf
  dsimp only
  split <;> rfl

/-- Loading an effect keeps a session mirrored if the sources are known. -/
theorem Mirrored.loadEffect (hs : s.Mirrored known) {source : SourceArgument}
    (hknown : ∀ file, s.expectFile source = .ok file → known file) :
    (s.loadEffect source).2.Mirrored known := by
  unfold Session.loadEffect
  cases hfile : s.expectFile source with
  | error e => exact hs
  | ok file =>
    refine hs.run ?_
    exact fun m hm => hm.load hs.consistent (hknown file hfile)

/-- A load by request keeps a session mirrored if the sources are known. -/
theorem Mirrored.load (hs : s.Mirrored known) {source : SourceArgument}
    (hknown : ∀ file, s.expectFile source = .ok file → known file) :
    (s.load source).2.Mirrored known := by
  have hload := hs.loadEffect hknown
  unfold Session.load
  rcases h : s.loadEffect source with ⟨result, t⟩
  rw [h] at hload
  cases result with
  | error e => exact hload
  | ok loaded => exact mirrored_of_studio_eq (studio_numberOf t loaded) hload

/-- Emptying the cache keeps a session mirrored. -/
theorem Mirrored.clear (hs : s.Mirrored known) : s.clear.Mirrored known :=
  ⟨hs.consistent, Cache.mirrors_of_entries_eq_nil rfl _ _⟩

/-- A declaration changes what names resolve to, and nothing that is read. -/
theorem Mirrored.declare (hs : s.Mirrored known) (declaration : DeclarationArgument)
    (hknown : ∀ name file, (s.declare declaration).2.studio.registry.resolve name = .ok file →
      known file) : (s.declare declaration).2.Mirrored known := by
  revert hknown
  unfold Session.declare
  cases declaration.expect with
  | error e => exact fun _ => hs
  | ok d =>
    intro hknown
    exact ⟨⟨fun h => hknown _ _ h, hs.consistent.read_congr⟩, hs.mirrors⟩

/-- A request keeps the cache a mirror of the sources. -/
theorem Mirrored.perform (hs : s.Mirrored known) (request : Request)
    (hload : ∀ source file, request = .load source → s.expectFile source = .ok file → known file)
    (hresolve : ∀ name file, (s.perform request).studio.registry.resolve name = .ok file →
      known file) : (s.perform request).Mirrored known := by
  cases request with
  | compose key vars => exact hs.compose key vars
  | program stages vars => exact hs.program stages vars
  | load source => exact hs.load fun file hfile => hload source file rfl hfile
  | clear => exact hs.clear
  | declare declaration => exact hs.declare declaration hresolve

/-- The file that a name resolves to in a session comes up in it, whatever is requested. -/
theorem meets_of_resolve {requests : List Request} {name : Text} {file : SourceFile}
    (h : s.studio.registry.resolve name = .ok file) : s.Meets requests file := by
  cases requests with
  | nil => exact ⟨name, h⟩
  | cons request rest => exact Or.inl ⟨name, h⟩

/-- Requests keep the cache a mirror of the sources if all source files that come up are known. -/
theorem Mirrored.after (hs : s.Mirrored known) {requests : List Request}
    (hmeets : ∀ file, s.Meets requests file → known file) : (s.after requests).Mirrored known := by
  induction requests generalizing s with
  | nil => exact hs
  | cons request rest ih =>
    have hstep : (s.perform request).Mirrored known := by
      refine hs.perform request ?_ ?_
      · exact fun source file hrequest hfile =>
          hmeets file (Or.inr (Or.inl ⟨source, hrequest, hfile⟩))
      · exact fun name file h => hmeets file (Or.inr (Or.inr (meets_of_resolve h)))
    exact ih hstep fun file h => hmeets file (Or.inr (Or.inr h))

end

/-- A session that has just started has loaded nothing. -/
theorem cache_of_start {settings : Settings} {options : Options} {store : Reader} {live : Bool}
    {journal : Journal} {s : Session} (h : start settings options store live journal = .ok s) :
    s.studio.cache = .empty := by
  unfold start at h
  cases hregistry : options.registry settings with
  | error e => simp [hregistry, bind, Except.bind] at h
  | ok registry =>
    simp only [hregistry, bind, Except.bind, pure, Except.pure, Except.ok.injEq] at h
    rw [← h]

/-- A composition in a session comes out as in a session that has loaded nothing. -/
theorem Mirrored.compose_renewed {s : Session} {known : SourceFile → Prop}
    (hs : s.Mirrored known) (key : Value) (vars : Composer.Vars) :
    (s.compose key vars).1 = (s.renewed.compose key vars).1 := by
  unfold Session.compose
  rw [remember_fst, remember_fst]
  have hempty : Cache.empty.Mirrors s.studio.registry known :=
    Cache.mirrors_of_entries_eq_nil rfl _ _
  exact (compose_of_mirrors (m := ⟨s.studio.cache, s.reads, s.journal⟩)
    (n := ⟨.empty, s.reads, s.journal⟩) hs.consistent hs.mirrors hempty key vars).1

/-- The stages of a program in a session come out as each does alone in a session that has loaded
nothing. -/
theorem Mirrored.program_renewed {s t : Session} {known : SourceFile → Prop}
    (hs : s.Mirrored known) {stages : List (Value × Value)} {vars : Composer.Vars}
    {entries : List (Value × Composed)} (h : s.program stages vars = (.ok entries, t)) :
    ∃ requested, stagesOf [] stages = .ok requested ∧
      List.Forall₂ (fun request entry => entry.1 = request.1 ∧
        (s.renewed.compose request.2 vars).1 = .ok entry.2) requested entries := by
  unfold Session.program at h
  cases hstages : stagesOf [] stages with
  | error e => simp [hstages] at h
  | ok requested =>
    simp only [hstages] at h
    refine ⟨requested, rfl, ?_⟩
    have hm : (⟨s.studio.cache, s.reads, s.journal⟩ : Memory).cache.Mirrors s.studio.registry
      known := hs.mirrors
    have hentries := (composeProgram_of_mirrors hs.consistent hm hm requested vars).2 entries
      (congrArg Prod.fst h)
    refine hentries.imp ?_
    rintro request entry ⟨hstage, hcompose⟩
    refine ⟨hstage, ?_⟩
    rw [← hs.compose_renewed, Session.compose, remember_fst]
    exact hcompose

/-- What was loaded before does not show.  If what is read of a source depends on its identity only,
then after any requests, failed ones among them, a composition comes out as in a session with the
same registry that has loaded nothing, and so does each stage of a program. -/
theorem compose_transparent {settings : Settings} {options : Options} {store : Reader}
    {live : Bool} {journal : Journal} {s : Session}
    (hstart : start settings options store live journal = .ok s) (requests : List Request)
    (hread : ∀ file other text, s.Meets requests file → s.Meets requests other →
      file.identity = other.identity → s.studio.registry.read file = .ok text →
        s.studio.registry.read other = .ok text) :
    (∀ key vars, ((s.after requests).compose key vars).1 =
      ((s.after requests).renewed.compose key vars).1) ∧
    ∀ stages vars entries t, (s.after requests).program stages vars = (.ok entries, t) →
      ∃ requested, stagesOf [] stages = .ok requested ∧
        List.Forall₂ (fun request entry => entry.1 = request.1 ∧
          ((s.after requests).renewed.compose request.2 vars).1 = .ok entry.2)
          requested entries := by
  have hs : s.Mirrored (s.Meets requests) := by
    refine ⟨⟨fun h => meets_of_resolve h, fun {_ _ _} => hread _ _ _⟩, ?_⟩
    rw [cache_of_start hstart]
    exact Cache.mirrors_of_entries_eq_nil rfl _ _
  have hafter := hs.after fun _ h => h
  exact ⟨hafter.compose_renewed, fun _ _ _ _ h => hafter.program_renewed h⟩

/-! ### Sessions that read a table -/

/-- A request that loads by name and declares no package. -/
def plainRequest : Request → Bool
  | .load (.file _) => false
  | .declare (.declaration d) => d.package.isNone
  | _ => true

/-- A request changes the registry only by a declaration. -/
theorem registry_perform (s : Session) (request : Request) :
    (s.perform request).studio.registry = s.studio.registry ∨
      ∃ d, request = .declare (.declaration d) ∧
        (s.perform request).studio.registry = s.studio.registry.declare d := by
  cases request with
  | compose key vars =>
    left
    simp only [perform, Session.compose, studio_remember]
    rfl
  | program stages vars =>
    left
    simp only [perform, Session.program]
    split <;> rfl
  | load source =>
    left
    have hload : (s.loadEffect source).2.studio.registry = s.studio.registry := by
      unfold Session.loadEffect
      split <;> rfl
    simp only [perform, Session.load]
    rcases h : s.loadEffect source with ⟨result, t⟩
    rw [h] at hload
    cases result with
    | error e => exact hload
    | ok loaded =>
      dsimp only
      rw [studio_numberOf]
      exact hload
  | clear => exact Or.inl rfl
  | declare declaration =>
    cases declaration with
    | declaration d => exact Or.inr ⟨d, rfl, rfl⟩
    | other kind => exact Or.inl rfl

/-- A file that is given by a name is what the name resolves to. -/
theorem exists_of_expectFile_name {s : Session} {v : Value} {file : SourceFile}
    (h : s.expectFile (.name v) = .ok file) :
    ∃ name, s.studio.registry.resolve name = .ok file := by
  cases v with
  | text name =>
    refine ⟨name, ?_⟩
    cases hresolve : s.studio.registry.resolve name with
    | error e =>
      simp [expectFile, fileOf, Session.resolve, Argument.expectText, hresolve, bind, Except.bind,
        Except.map] at h
    | ok other =>
      simp only [expectFile, fileOf, Session.resolve, Argument.expectText, hresolve, bind,
        Except.bind, Except.map, pure, Except.pure] at h
      exact h
  | _ => simp [expectFile, fileOf, Session.resolve, Argument.expectText, bind, Except.bind,
      Except.map] at h

/-- The source files that come up in a session that reads a table are at its locations. -/
theorem holds_of_meets {s : Session} {shelf : Shelf} {requests : List Request}
    (hreader : s.studio.registry.reader = .table shelf)
    (hdeclared : ∀ d ∈ s.studio.registry.declarations, d.package = none)
    (hrequests : ∀ request ∈ requests, plainRequest request = true) {file : SourceFile}
    (h : s.Meets requests file) : shelf.Holds s.studio.registry.workDir file := by
  induction requests generalizing s with
  | nil =>
    obtain ⟨name, hresolve⟩ := h
    exact holds_of_resolve hreader hdeclared hresolve
  | cons request rest ih =>
    have hplain := hrequests request List.mem_cons_self
    have hrest : ∀ later ∈ rest, plainRequest later = true :=
      fun later hlater => hrequests later (List.mem_cons_of_mem _ hlater)
    rcases h with ⟨name, hresolve⟩ | ⟨source, rfl, hfile⟩ | h
    · exact holds_of_resolve hreader hdeclared hresolve
    · cases source with
      | file _ => simp [plainRequest] at hplain
      | name v =>
        obtain ⟨name, hresolve⟩ := exists_of_expectFile_name hfile
        exact holds_of_resolve hreader hdeclared hresolve
    · rcases s.registry_perform request with hsame | ⟨d, rfl, hdeclare⟩
      · rw [← hsame] at hreader hdeclared ⊢
        exact ih hreader hdeclared hrest h
      · have hholds := ih (by rw [hdeclare]; exact hreader) ?_ hrest h
        · rw [hdeclare] at hholds
          exact hholds
        · intro other hother
          rw [hdeclare] at hother
          rcases List.mem_append.mp hother with hother | hother
          · exact hdeclared other hother
          · obtain rfl := List.mem_singleton.mp hother
            simpa [plainRequest] using hplain

/-- Two files, one of which includes a section of the other. -/
def grainShelf : Shelf :=
  [("fx/scene.glsl".toList, .text "-- main\n#include \"grain.hash\"\nx\n".toList),
    ("fx/noise.glsl".toList, .text "-- hash\nfloat hash;\n".toList)]

/-- Requests of which the first and the last fail; the other file is declared in between. -/
def grainRequests : List Request :=
  [.compose (.text "scene.main".toList) [], .load (.name (.text "noise".toList)),
    .declare (.declaration ⟨"grain".toList, some "fx/noise.glsl".toList, none⟩),
    .program [(.text "vertex".toList, .text "scene.main".toList)] [],
    .compose (.text "grain.absent".toList) []]

/-- The options of a session for the grain and its noise. -/
def grainOptions : Options :=
  ⟨[], .text "fx".toList, .text "glsl".toList, .ok (.table grainShelf), false, "/work".toList⟩

/-- A session that reads a table, after these requests. -/
theorem compose_transparent_grain :
    ∃ s, start ⟨none, none, none, [], []⟩ grainOptions (.table grainShelf) true [] = .ok s ∧
      (∀ file other text, s.Meets grainRequests file → s.Meets grainRequests other →
        file.identity = other.identity → s.studio.registry.read file = .ok text →
          s.studio.registry.read other = .ok text) ∧
      (s.after grainRequests).studio.cache.size = 2 ∧
      ∀ key vars, ((s.after grainRequests).compose key vars).1 =
        ((s.after grainRequests).renewed.compose key vars).1 := by
  obtain ⟨s, hstart, hregistry, hsize⟩ : ∃ s,
      start ⟨none, none, none, [], []⟩ grainOptions (.table grainShelf) true [] = .ok s ∧
        s.studio.registry = ⟨[], "fx".toList, "glsl".toList, .table grainShelf, "/work".toList⟩ ∧
        (s.after grainRequests).studio.cache.size = 2 :=
    ⟨_, rfl, rfl, by decide +kernel⟩
  have hreader : s.studio.registry.reader = .table grainShelf := by rw [hregistry]
  have hdeclared : ∀ d ∈ s.studio.registry.declarations, d.package = none := by simp [hregistry]
  have hplain : ∀ request ∈ grainRequests, plainRequest request = true := by decide
  have hdistinct : ∀ a ∈ grainShelf.map Prod.fst, ∀ b ∈ grainShelf.map Prod.fst,
      Path.absolute s.studio.registry.workDir a = Path.absolute s.studio.registry.workDir b →
        a = b := by
    rw [hregistry]
    decide +kernel
  have hread : ∀ file other text, s.Meets grainRequests file → s.Meets grainRequests other →
      file.identity = other.identity → s.studio.registry.read file = .ok text →
        s.studio.registry.read other = .ok text := by
    intro file other text hfile hother
    exact (consistent_of_table hreader hdeclared hdistinct).read_congr
      (holds_of_meets hreader hdeclared hplain hfile)
      (holds_of_meets hreader hdeclared hplain hother)
  exact ⟨s, hstart, hread, hsize, (compose_transparent hstart grainRequests hread).1⟩

end Session

end ShaderCompose
