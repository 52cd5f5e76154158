import ShaderCompose.Proofs.Loading
import ShaderCompose.Proofs.Source.Holdings

/-!
# Sources that correspond

Two readers have the same sources, and the texts of each source parse to effects that are related in
some way.  If related effects select related sections for every key, then with both readers a key
stands for related targets or fails for the same reason, and the effects that are cached on the way
are related again.

Which effects are related is left open: they may differ in lines that do not matter yet, or in the
wording of their include lines.  Finding a target is followed step by step in `locate_paired`, where
the keys, the registries and the failures may differ as well.
-/

set_option autoImplicit false

namespace ShaderCompose

/-! ## Outcomes -/

/-- Two outcomes are related results, or the same failure. -/
inductive Parallel {α β : Type} (R : α → β → Prop) : Except Failure α → Except Failure β → Prop
  | ok {a : α} {b : β} : R a b → Parallel R (.ok a) (.ok b)
  | error {e : Failure} : Parallel R (.error e) (.error e)

namespace Parallel

variable {α β : Type}

/-- Outcomes that are the same under a function are the same failure or results with the same
image. -/
theorem of_map_eq {f : α → β} {x y : Except Failure α} (h : y.map f = x.map f) :
    Parallel (fun a b => f b = f a) x y := by
  cases x with
  | error e =>
    cases y with
    | error e' =>
      obtain rfl : e' = e := Except.error.inj h
      exact .error
    | ok b => simp [Except.map] at h
  | ok a =>
    cases y with
    | error e' => simp [Except.map] at h
    | ok b => exact .ok (Except.ok.inj h)

/-- Outcomes that are parallel for a relation are so for a weaker one. -/
theorem mono {R S : α → β → Prop} {x : Except Failure α} {y : Except Failure β}
    (h : Parallel R x y) (hsub : ∀ a b, R a b → S a b) : Parallel S x y := by
  cases h with
  | ok hab => exact .ok (hsub _ _ hab)
  | error => exact .error

end Parallel

/-- Two outcomes are related results, or related failures. -/
inductive Paired {α β : Type} (F : Failure → Failure → Prop) (R : α → β → Prop) :
    Except Failure α → Except Failure β → Prop
  | ok {a : α} {b : β} : R a b → Paired F R (.ok a) (.ok b)
  | error {e f : Failure} : F e f → Paired F R (.error e) (.error f)

/-- Parallel outcomes are paired with equal failures. -/
theorem Parallel.paired {α β : Type} {R : α → β → Prop} {x : Except Failure α}
    {y : Except Failure β} (h : Parallel R x y) : Paired Eq R x y := by
  cases h with
  | ok hab => exact .ok hab
  | error => exact .error rfl

/-- Outcomes that are paired with equal failures are parallel. -/
theorem Paired.parallel {α β : Type} {R : α → β → Prop} {x : Except Failure α}
    {y : Except Failure β} (h : Paired Eq R x y) : Parallel R x y := by
  cases h with
  | ok hab => exact .ok hab
  | error heq =>
    subst heq
    exact .error

/-- Outcomes that are paired for a relation of results are so for a weaker one. -/
theorem Paired.mono {α β : Type} {F : Failure → Failure → Prop} {R S : α → β → Prop}
    {x : Except Failure α} {y : Except Failure β} (h : Paired F R x y)
    (hsub : ∀ a b, R a b → S a b) : Paired F S x y := by
  cases h with
  | ok hab => exact .ok (hsub _ _ hab)
  | error hef => exact .error hef

/-- Outcomes that are paired with equality for both relations are equal. -/
theorem Paired.eq {α : Type} {x y : Except Failure α} (h : Paired Eq Eq x y) : y = x := by
  cases h with
  | ok hab => rw [hab]
  | error hef => rw [hef]

/-- Functions that take related results to related ones keep outcomes paired. -/
theorem Paired.map {α β γ δ : Type} {F : Failure → Failure → Prop} {R : α → β → Prop}
    {S : γ → δ → Prop} {x : Except Failure α} {y : Except Failure β} (h : Paired F R x y)
    {f : α → γ} {g : β → δ} (hmap : ∀ a b, R a b → S (f a) (g b)) :
    Paired F S (x.map f) (y.map g) := by
  cases h with
  | ok hab => exact .ok (hmap _ _ hab)
  | error hef => exact .error hef

/-- Two operations with paired outcomes, and with related caches afterwards. -/
structure PairedAnswers {α β : Type} (F : Failure → Failure → Prop) (R : α → β → Prop)
    (C : Cache → Cache → Prop) (x : Except Failure α × Memory) (y : Except Failure β × Memory) :
    Prop where
  outcome : Paired F R x.1 y.1
  cache : C x.2.cache y.2.cache

namespace PairedAnswers

variable {α β : Type} {F : Failure → Failure → Prop} {R : α → β → Prop}
variable {C : Cache → Cache → Prop} {y : Except Failure β × Memory} {m : Memory}

/-- If the first of paired operations succeeds, then so does the second, with a related result and a
related cache. -/
theorem of_ok {a : α} (h : PairedAnswers F R C (.ok a, m) y) :
    ∃ b n, y = (.ok b, n) ∧ R a b ∧ C m.cache n.cache := by
  obtain ⟨result, n⟩ := y
  obtain ⟨houtcome, hcache⟩ := h
  cases houtcome with
  | ok hab => exact ⟨_, n, rfl, hab, hcache⟩

/-- If the first of paired operations fails, then so does the second, with a related failure and a
related cache. -/
theorem of_error {e : Failure} (h : PairedAnswers F R C (.error e, m) y) :
    ∃ f n, y = (.error f, n) ∧ F e f ∧ C m.cache n.cache := by
  obtain ⟨result, n⟩ := y
  obtain ⟨houtcome, hcache⟩ := h
  cases houtcome with
  | error hef => exact ⟨_, n, rfl, hef, hcache⟩

/-- Operations that are paired for a relation of results are so for a weaker one. -/
theorem mono {S : α → β → Prop} {x : Except Failure α × Memory} (h : PairedAnswers F R C x y)
    (hsub : ∀ a b, R a b → S a b) : PairedAnswers F S C x y :=
  ⟨h.outcome.mono hsub, h.cache⟩

end PairedAnswers

/-! ## Related effects -/

/-- Related effects have the same identity, and select related sections for every key. -/
structure Effect.SelectAlike (E : Effect → Effect → Prop) (S : Section → Section → Prop) :
    Prop where
  identity {effect other : Effect} : E effect other → other.identity = effect.identity
  bestSection {effect other : Effect} : E effect other → ∀ requested,
    Option.Rel S (effect.bestSection requested) (other.bestSection requested)

/-- Caches that hold related effects under the same identities. -/
def Cache.Matches (E : Effect → Effect → Prop) (cache other : Cache) : Prop :=
  ∀ identity, Option.Rel (fun loaded loaded' => E loaded.effect loaded'.effect)
    (cache.get? identity) (other.get? identity)

/-- Another reader has the same sources as that of a registry, and where names resolve to they parse
to related effects. -/
structure Registry.Corresponds (r : Registry) (other : Reader) (E : Effect → Effect → Prop) :
    Prop where
  has (file : SourceFile) : other.has file = r.reader.has file
  read {name : Text} {file : SourceFile} : r.resolve name = .ok file →
    Parallel (fun text text' => E (Effect.parse text file.identity (some file))
      (Effect.parse text' file.identity (some file)))
      (r.read file) (({ r with reader := other } : Registry).read file)

/-- What two readers give for a source is related if it is the same content, or related texts. -/
theorem Registry.read_parallel {r : Registry} {other : Reader} {file : SourceFile}
    {R : Text → Text → Prop}
    (h : (other.read file = r.reader.read file ∧
        ∀ text, (r.reader.read file).text? = some text → R text text) ∨
      ∃ text text', (r.reader.read file).text? = some text ∧
        (other.read file).text? = some text' ∧ R text text') :
    Parallel R (r.read file) (({ r with reader := other } : Registry).read file) := by
  rcases h with ⟨hsame, hrefl⟩ | ⟨text, text', htext, htext', hrel⟩
  · have hread : ({ r with reader := other } : Registry).read file = r.read file := by
      unfold Registry.read
      rw [Reader.sourceReader_read, hsame]
      rfl
    rw [hread]
    cases hown : r.read file with
    | error e => exact .error
    | ok text => exact .ok (hrefl text (Registry.read_eq_ok_iff.mp hown))
  · have hother : ({ r with reader := other } : Registry).read file = .ok text' :=
      Registry.read_eq_ok_iff.mpr htext'
    rw [Registry.read_eq_ok_iff.mpr htext, hother]
    exact .ok hrel

/-- Targets with the same name and file, and with related effects and sections. -/
structure Target.Corresponds (E : Effect → Effect → Prop) (S : Section → Section → Prop)
    (target other : Target) : Prop where
  name : other.name = target.name
  file : other.file = target.file
  effect : E target.effect other.effect
  found : S target.found other.found

section

variable {E : Effect → Effect → Prop} {S : Section → Section → Prop}
variable {r : Registry} {other : Reader} {m n : Memory}

/-- A cache matches itself if every effect is related to itself. -/
theorem Cache.Matches.refl (hE : ∀ effect, E effect effect) (cache : Cache) :
    cache.Matches E cache := by
  intro identity
  cases cache.get? identity with
  | none => exact .none
  | some loaded => exact .some (hE loaded.effect)

/-- Matching caches still match after related effects are put in under one identity. -/
theorem Cache.Matches.insert {cache cache' : Cache} (h : cache.Matches E cache')
    {effect effect' : Effect} (heffect : E effect effect') (identity : Text) :
    (cache.insert identity effect).Matches E (cache'.insert identity effect') := by
  intro key
  rw [Cache.get?_insert, Cache.get?_insert]
  split
  · exact .some heffect
  · exact h key

end

/-! ## Two lookups -/

section

variable {F : Failure → Failure → Prop} {E : Effect → Effect → Prop} {S : Section → Section → Prop}
variable {C : Cache → Cache → Prop} {r r' : Registry} {m n : Memory}

/-- Sources with one identity are loaded as related effects if both are cached as such, or none is
cached and both are parsed as such. -/
theorem Memory.load_paired {file file' : SourceFile} (hidentity : file'.identity = file.identity)
    (hcache : C m.cache n.cache)
    (hget : Option.Rel (fun loaded loaded' => E loaded.effect loaded'.effect)
      (m.cache.get? file.identity) (n.cache.get? file.identity))
    (hread : Paired F (fun text text' => E (Effect.parse text file.identity (some file))
      (Effect.parse text' file.identity (some file'))) (r.read file) (r'.read file'))
    (hinsert : ∀ {effect effect'}, E effect effect' →
      C (m.cache.insert file.identity effect) (n.cache.insert file.identity effect')) :
    PairedAnswers F (fun loaded loaded' => E loaded.effect loaded'.effect) C (m.load r file)
      (n.load r' file') := by
  unfold Memory.load Memory.read
  rw [hidentity]
  generalize m.cache.get? file.identity = held at hget
  generalize n.cache.get? file.identity = held' at hget
  cases hget with
  | some heffect => exact ⟨.ok heffect, hcache⟩
  | none =>
    dsimp only
    generalize r.read file = result at hread
    generalize r'.read file' = result' at hread
    cases hread with
    | error hef => exact ⟨.error hef, hcache⟩
    | ok heffect => exact ⟨.ok heffect, hinsert heffect⟩

/-- Two keys have related targets, or fail with related failures, if they are taken apart into names
that resolve to related files and the same section key, and related files are loaded as related
effects. -/
theorem locate_paired {P : Text → Text → SourceFile → SourceFile → Prop} {key key' : Text}
    (hE : Effect.SelectAlike E S) (hcache : C m.cache n.cache)
    (hsource : Paired F (fun parts parts' => parts'.sectionKey = parts.sectionKey ∧
        Paired F (P parts.source parts'.source) (r.resolve parts.source)
          (r'.resolve parts'.source))
      (EffectKey.split key) (EffectKey.split key'))
    (hload : ∀ {name name' file file'}, P name name' file file' →
      PairedAnswers F (fun loaded loaded' => E loaded.effect loaded'.effect) C (m.load r file)
        (n.load r' file'))
    (hmissing : ∀ identity sectionKey,
      F (.effect (.sectionNotFound identity sectionKey (some key)))
        (.effect (.sectionNotFound identity sectionKey (some key')))) :
    PairedAnswers F (fun target target' => P target.name target'.name target.file target'.file ∧
      E target.effect target'.effect ∧ S target.found target'.found) C (locate r key m)
      (locate r' key' n) := by
  unfold locate
  -- each step of the one lookup goes the way that the step of the other goes
  generalize EffectKey.split key = split at hsource
  generalize EffectKey.split key' = split' at hsource
  cases hsource with
  | error hef => exact ⟨.error hef, hcache⟩
  | @ok parts parts' hparts =>
    obtain ⟨hsection, hresolve⟩ := hparts
    dsimp only
    generalize r.resolve parts.source = resolved at hresolve
    generalize r'.resolve parts'.source = resolved' at hresolve
    cases hresolve with
    | error hef => exact ⟨.error hef, hcache⟩
    | @ok file file' hfiles =>
      obtain ⟨hloaded, hcaches⟩ := hload hfiles
      dsimp only
      generalize m.load r file = answer at hloaded hcaches ⊢
      generalize n.load r' file' = answer' at hloaded hcaches ⊢
      obtain ⟨result, m'⟩ := answer
      obtain ⟨result', n'⟩ := answer'
      dsimp only at hloaded hcaches ⊢
      cases hloaded with
      | error hef => exact ⟨.error hef, hcaches⟩
      | @ok loaded loaded' heffect =>
        have hbest := hE.bestSection heffect parts.sectionKey
        dsimp only
        rw [hsection, hE.identity heffect]
        generalize loaded.effect.bestSection parts.sectionKey = best at hbest
        generalize loaded'.effect.bestSection parts.sectionKey = best' at hbest
        cases hbest with
        | none => exact ⟨.error (hmissing _ _), hcaches⟩
        | some hfound => exact ⟨.ok ⟨hfiles, heffect, hfound⟩, hcaches⟩

end

/-! ## Finding targets -/

section

variable {E : Effect → Effect → Prop} {S : Section → Section → Prop}
variable {r : Registry} {other : Reader} {m n : Memory}

/-- With the same sources in another reader, a key stands for corresponding targets if what it
resolves to is loaded as related effects. -/
theorem Registry.locate_reader_paired {C : Cache → Cache → Prop}
    (hhas : ∀ file, other.has file = r.reader.has file) (hE : Effect.SelectAlike E S)
    (hcache : C m.cache n.cache)
    (hload : ∀ {name file}, r.resolve name = .ok file →
      PairedAnswers Eq (fun loaded loaded' => E loaded.effect loaded'.effect) C (m.load r file)
        (n.load { r with reader := other } file)) (key : Text) :
    PairedAnswers Eq (Target.Corresponds E S) C (locate r key m)
      (locate { r with reader := other } key n) := by
  have hsource : Paired Eq (fun parts parts' => parts'.sectionKey = parts.sectionKey ∧
      Paired Eq (fun file file' => parts'.source = parts.source ∧ file' = file ∧
          r.resolve parts.source = .ok file)
        (r.resolve parts.source) (({ r with reader := other } : Registry).resolve parts'.source))
      (EffectKey.split key) (EffectKey.split key) := by
    cases EffectKey.split key with
    | error e => exact .error rfl
    | ok parts =>
      refine .ok ⟨rfl, ?_⟩
      rw [Registry.resolve_of_has_eq hhas]
      cases hresolve : r.resolve parts.source with
      | error e => exact .error rfl
      | ok file => exact .ok ⟨rfl, rfl, rfl⟩
  refine (locate_paired hE hcache (P := fun name name' file file' =>
    name' = name ∧ file' = file ∧ r.resolve name = .ok file) hsource ?_ fun _ _ => rfl).mono ?_
  · rintro name _ file _ ⟨rfl, rfl, hresolve⟩
    exact hload hresolve
  · rintro target target' ⟨⟨hname, hfile, -⟩, heffect, hfound⟩
    exact ⟨hname, hfile, heffect, hfound⟩

/-- A key stands for corresponding targets, or fails for the same reason, and the caches match
afterwards. -/
theorem Registry.Corresponds.locate (h : r.Corresponds other E) (hE : Effect.SelectAlike E S)
    (hcache : m.cache.Matches E n.cache) (key : Text) :
    PairedAnswers Eq (Target.Corresponds E S) (Cache.Matches E) (locate r key m)
      (locate { r with reader := other } key n) := by
  refine Registry.locate_reader_paired h.has hE hcache ?_ key
  intro name file hresolve
  exact Memory.load_paired rfl hcache (hcache file.identity) (h.read hresolve).paired
    fun heffect => hcache.insert heffect file.identity

end

end ShaderCompose
