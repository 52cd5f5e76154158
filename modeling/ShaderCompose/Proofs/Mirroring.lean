import ShaderCompose.Proofs.Loading
import ShaderCompose.Proofs.Source.Holdings

/-!
# Caches that mirror the sources

As long as what is read of a source depends on its identity only, an effect in the cache is what
would be read and parsed anew, up to the source file that is noted as its origin.  Loads keep this,
also those that fail.  So what a key stands for does not depend on what was loaded before: it is
what the registry alone says.
-/

set_option autoImplicit false

namespace ShaderCompose

variable {ρ : Type} [SourceReader ρ]

/-! ## Effects and targets without their origin -/

/-- The effect without the source file that it was loaded from. -/
def Effect.bare (effect : Effect) : Effect := { effect with origin := none }

/-- The target with a bare effect. -/
def Target.bare (target : Target) : Target := { target with effect := target.effect.bare }

/-- Targets that are the same up to the origin of their effects. -/
theorem Target.eq_of_bare_eq {target other : Target} (h : other.bare = target.bare) :
    other.name = target.name ∧ other.file = target.file ∧
      other.effect.identity = target.effect.identity ∧ other.found = target.found := by
  obtain ⟨name, file, effect, found⟩ := target
  obtain ⟨name', file', effect', found'⟩ := other
  simp only [Target.bare, Effect.bare, Target.mk.injEq, Effect.mk.injEq] at h
  obtain ⟨rfl, rfl, ⟨hidentity, -⟩, rfl⟩ := h
  exact ⟨rfl, rfl, hidentity, rfl⟩

/-- A parsed effect is, up to its origin, what the text is parsed to without one. -/
theorem Effect.bare_parse (text identity : Text) (origin : Option SourceFile) :
    (parse text identity origin).bare = parse text identity none := by
  have h := foldl_addBlock_origin (blocksOf text) ⟨identity, origin, [], []⟩ none
  exact h.symm

/-! ## What keys stand for -/

/-- What a key stands for according to a registry, without any effects loaded before. -/
def Registry.target (r : Registry ρ) (key : Text) : Except Failure Target :=
  match EffectKey.split key with
  | .error e => .error e
  | .ok parts =>
    match r.resolve parts.source with
    | .error e => .error e
    | .ok file =>
      match r.read file with
      | .error e => .error e
      | .ok text =>
        let effect := Effect.parse text file.identity none
        match effect.bestSection parts.sectionKey with
        | none =>
          .error (.effect (.sectionNotFound effect.identity parts.sectionKey (some key)))
        | some found => .ok ⟨parts.source, file, effect, found⟩

/-- What is read of the known sources depends on their identity only, and all names resolve to known
sources. -/
structure Registry.Consistent (r : Registry ρ) (known : SourceFile → Prop) : Prop where
  known_of_resolve {name : Text} {file : SourceFile} : r.resolve name = .ok file → known file
  read_congr {file other : SourceFile} {text : Text} :
    known file → known other → file.identity = other.identity → r.read file = .ok text →
      r.read other = .ok text

/-! ## Mirrors -/

/-- The effects in the cache are parsed from what is read of the known sources. -/
def Cache.Mirrors (cache : Cache) (r : Registry ρ) (known : SourceFile → Prop) : Prop :=
  ∀ file loaded, known file → cache.get? file.identity = some loaded →
    ∃ text origin, r.read file = .ok text ∧
      loaded.effect = Effect.parse text file.identity origin

/-- A cache without entries mirrors all sources. -/
theorem Cache.mirrors_of_entries_eq_nil {cache : Cache} (h : cache.entries = []) (r : Registry ρ)
    (known : SourceFile → Prop) : cache.Mirrors r known := by
  intro file loaded _ hget
  simp [Cache.get?, h] at hget

section

variable {r : Registry ρ} {known : SourceFile → Prop} {cache next : Cache} {m : Memory}

/-- A cache mirrors the sources still when a known one was read and parsed. -/
theorem Cache.Mirrors.insert (hr : r.Consistent known) (hcache : cache.Mirrors r known)
    {file : SourceFile} {text : Text} (hfile : known file) (hread : r.read file = .ok text) :
    (cache.insert file.identity (Effect.parse text file.identity (some file))).Mirrors r known := by
  intro other loaded hother hget
  rw [Cache.get?_insert] at hget
  by_cases hidentity : other.identity = file.identity
  · rw [if_pos hidentity] at hget
    refine ⟨text, some file, hr.read_congr hfile hother hidentity.symm hread, ?_⟩
    rw [← Option.some.inj hget, hidentity]
  · rw [if_neg hidentity] at hget
    exact hcache other loaded hother hget

/-- A cache mirrors the sources still after a load of a known one, whether it succeeds or fails. -/
theorem Cache.Mirrors.load (hr : r.Consistent known) (hm : m.cache.Mirrors r known)
    {file : SourceFile} (hfile : known file) : (m.load r file).2.cache.Mirrors r known := by
  rcases h : m.load r file with ⟨result, m'⟩
  cases result with
  | error e =>
    rw [(Memory.load_eq_error h).2.2]
    exact hm
  | ok loaded =>
    rcases Memory.load_eq_ok h with ⟨-, rfl⟩ | ⟨-, text, hread, -, hcache⟩
    · exact hm
    · rw [hcache]
      exact hm.insert hr hfile hread

/-- A cache mirrors the sources still after loads. -/
theorem Cache.Loads.mirrors (hr : r.Consistent known) (h : Cache.Loads r cache next)
    (hcache : cache.Mirrors r known) : next.Mirrors r known := by
  induction h with
  | refl => exact hcache
  | tail _ hload ih =>
    cases hload with
    | same => exact ih
    | read hresolve hread _ => exact ih.insert hr (hr.known_of_resolve hresolve) hread

/-- A cache that mirrors the sources still does so after a key was located. -/
theorem Cache.Mirrors.locate (hr : r.Consistent known) (hm : m.cache.Mirrors r known)
    {key : Text} {result : Except Failure Target} {m' : Memory}
    (h : locate r key m = (result, m')) : m'.cache.Mirrors r known :=
  Cache.Loads.mirrors hr (.single (Cache.load_of_locate h)) hm

/-- Loading a known source through a cache that mirrors the sources: reading and parsing it. -/
theorem Memory.load_of_mirrors (hm : m.cache.Mirrors r known) {file : SourceFile}
    (hfile : known file) :
    (m.load r file).1.map (fun loaded => loaded.effect.bare) =
      (r.read file).map fun text => Effect.parse text file.identity none := by
  rcases h : m.load r file with ⟨result, m'⟩
  cases result with
  | error e => rw [(Memory.load_eq_error h).2.1]; rfl
  | ok loaded =>
    rcases Memory.load_eq_ok h with ⟨hget, -⟩ | ⟨-, text, hread, rfl, -⟩
    · obtain ⟨text, origin, hread, hparse⟩ := hm file loaded hfile hget
      rw [hread]
      simp only [Except.map, hparse, Effect.bare_parse]
    · rw [hread]
      simp only [Except.map, Effect.bare_parse]

/-- The section for a key is the same in a bare effect. -/
theorem Effect.bestSection_bare (effect : Effect) (key : Text) :
    effect.bare.bestSection key = effect.bestSection key :=
  bestSection_congr rfl key

/-- Through a cache that mirrors the sources a key stands for what the registry says. -/
theorem locate_of_mirrors (hr : r.Consistent known) (hm : m.cache.Mirrors r known) (key : Text) :
    (locate r key m).1.map Target.bare = r.target key := by
  -- the two differ in how they load, and a load gives what reading gives, up to the origin
  unfold locate Registry.target
  cases hsplit : EffectKey.split key with
  | error e => rfl
  | ok parts =>
    cases hresolve : r.resolve parts.source with
    | error e => simp only [hresolve]; rfl
    | ok file =>
      have hload := Memory.load_of_mirrors hm (hr.known_of_resolve hresolve)
      rcases h : m.load r file with ⟨result, m'⟩
      rw [h] at hload
      cases hread : r.read file with
      | error e =>
        rw [hread] at hload
        cases result with
        | ok loaded => simp [Except.map] at hload
        | error e' =>
          obtain rfl : e' = e := by simpa [Except.map] using hload
          simp only [hresolve, h, hread]
          rfl
      | ok text =>
        rw [hread] at hload
        cases result with
        | error e' => simp [Except.map] at hload
        | ok loaded =>
          have hbare : loaded.effect.bare = Effect.parse text file.identity none := by
            simpa [Except.map] using hload
          have hidentity : loaded.effect.identity =
              (Effect.parse text file.identity none).identity := by
            rw [← hbare]
            rfl
          have hbest := loaded.effect.bestSection_bare parts.sectionKey
          rw [hbare] at hbest
          cases hfound : loaded.effect.bestSection parts.sectionKey with
          | none => simp only [hresolve, h, hread, hbest, hfound, hidentity]; rfl
          | some found =>
            simp only [hresolve, h, hread, hbest, hfound]
            simp only [Except.map, Target.bare, hbare]

/-- A key that is located stands for the target that the registry alone gives, whatever was in the
cache. -/
theorem target_of_locate_eq_ok (hr : r.Consistent known) (hm : m.cache.Mirrors r known)
    {key : Text} {target : Target} {m' : Memory} (h : locate r key m = (.ok target, m')) :
    r.target key = .ok target.bare := by
  rw [← locate_of_mirrors hr hm key, h]
  rfl

/-- A key that cannot be located stands for no target, for the same reason. -/
theorem target_of_locate_eq_error (hr : r.Consistent known) (hm : m.cache.Mirrors r known)
    {key : Text} {e : Failure} {m' : Memory} (h : locate r key m = (.error e, m')) :
    r.target key = .error e := by
  rw [← locate_of_mirrors hr hm key, h]
  rfl

end

/-! ## Tables -/

/-- Files at the locations of a table. -/
def Shelf.Holds (shelf : Shelf) (workDir : Text) (file : SourceFile) : Prop :=
  file.package = none ∧ file.workDir = workDir ∧ file.location ∈ shelf.map Prod.fst

section

variable {r : Registry} {shelf : Shelf}

/-- Names resolve to locations of a table unless they are declared for a package. -/
theorem holds_of_resolve (hreader : r.reader = .table shelf)
    (hdeclared : ∀ d ∈ r.declarations, d.package = none) {name : Text} {file : SourceFile}
    (h : r.resolve name = .ok file) : shelf.Holds r.workDir file := by
  rcases r.resolve_forms name with ⟨d, package, hd, hpackage, -⟩ | ⟨locations, detail, hform⟩
  · simp [hdeclared d hd] at hpackage
  · rw [hform] at h
    rcases r.firstExisting_cases _ detail locations with ⟨location, hhas, hok⟩ | herror
    · obtain rfl := Except.ok.inj (hok.symm.trans h)
      rw [hreader] at hhas
      exact ⟨rfl, rfl, by simpa [Reader.has] using hhas⟩
    · simp [herror] at h

/-- What is read from a table depends on the location only. -/
theorem read_of_location_eq (hreader : r.reader = .table shelf) {file other : SourceFile}
    {text : Text} (h : file.location = other.location) (hread : r.read file = .ok text) :
    r.read other = .ok text := by
  rw [Registry.read_eq_ok_iff, hreader] at hread ⊢
  simpa only [Reader.read, h] using hread

/-- A registry that reads a table is consistent if different locations of the table are different
files. -/
theorem consistent_of_table (hreader : r.reader = .table shelf)
    (hdeclared : ∀ d ∈ r.declarations, d.package = none)
    (hdistinct : ∀ a ∈ shelf.map Prod.fst, ∀ b ∈ shelf.map Prod.fst,
      Path.absolute r.workDir a = Path.absolute r.workDir b → a = b) :
    r.Consistent (shelf.Holds r.workDir) where
  known_of_resolve h := holds_of_resolve hreader hdeclared h
  read_congr {file other text} hfile hother hidentity hread := by
    obtain ⟨hpackage, hdir, hlocation⟩ := hfile
    obtain ⟨hpackage', hdir', hlocation'⟩ := hother
    refine read_of_location_eq hreader (hdistinct _ hlocation _ hlocation' ?_) hread
    simpa only [SourceFile.identity, hpackage, hpackage', hdir, hdir'] using hidentity

end

end ShaderCompose
