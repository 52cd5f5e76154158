import Mathlib.Logic.Relation
import ShaderCompose.Expansion
import ShaderCompose.Proofs.Effect.Slices

/-!
# Loading effects

What loading a source and finding the target of an effect key do to the cache: nothing, or they add
one effect that was read and parsed under an identity which the cache did not hold.  An effect that
the cache holds stays, so a key that was found once is found again, with the same target and
without any further change.
-/

set_option autoImplicit false

namespace ShaderCompose

variable {ρ : Type} [SourceReader ρ]

/-! ## The cache -/

namespace Cache

/-- A published effect is found under its identity, and the others are found as before. -/
theorem get?_publish (cache : Cache) (identity other : Text) (loaded : Loaded) :
    (cache.publish identity loaded).get? other =
      if other = identity then some loaded else cache.get? other := by
  unfold get? publish
  rw [List.lookup_append]
  by_cases h : other = identity
  · have hnone :
        (cache.entries.filter fun entry => entry.1 != identity).lookup identity = none := by
      rw [List.lookup_eq_none_iff]
      intro entry hentry
      have hne : (entry.1 != identity) = true := (List.mem_filter.mp hentry).2
      exact bne_iff_ne.mpr (Ne.symm (bne_iff_ne.mp hne))
    simp [h, hnone]
  · have hne : (other == identity) = false := by simpa using h
    rw [lookup_filter_ne h, if_neg h]
    simp [List.lookup_cons, hne]

/-- An inserted effect is found under its identity, and the others are found as before. -/
theorem get?_insert (cache : Cache) (identity other : Text) (effect : Effect) :
    (cache.insert identity effect).get? other =
      if other = identity then some ⟨effect, cache.parses⟩ else cache.get? other :=
  get?_publish cache.countParse identity other ⟨effect, cache.parses⟩

/-- The entries of a cache after an insertion are the new one and some that were there before. -/
theorem mem_entries_insert {cache : Cache} {identity : Text} {effect : Effect}
    {entry : Text × Loaded} (h : entry ∈ (cache.insert identity effect).entries) :
    entry ∈ cache.entries ∨ entry = (identity, ⟨effect, cache.parses⟩) := by
  rcases List.mem_append.mp h with h | h
  · exact Or.inl (List.mem_of_mem_filter h)
  · exact Or.inr (List.mem_singleton.mp h)

/-- An effect that is found is one of the entries. -/
theorem mem_entries_of_get? {cache : Cache} {identity : Text} {loaded : Loaded}
    (h : cache.get? identity = some loaded) : (identity, loaded) ∈ cache.entries := by
  obtain ⟨before, after, hsplit, -⟩ := List.lookup_eq_some_iff.mp h
  rw [hsplit]
  simp

/-- One load from a registry, as far as the cache can tell: it stays as it is, or gets an effect
that was read and parsed under an identity which it did not hold. -/
inductive Load (r : Registry ρ) (cache : Cache) : Cache → Prop
  | same : Load r cache cache
  | read {name text : Text} {file : SourceFile} :
      r.resolve name = .ok file → r.read file = .ok text → cache.get? file.identity = none →
        Load r cache (cache.insert file.identity (Effect.parse text file.identity (some file)))

/-- Any number of loads from a registry. -/
def Loads (r : Registry ρ) : Cache → Cache → Prop := Relation.ReflTransGen (Load r)

/-- A load keeps the effects that the cache holds. -/
theorem Load.get? {r : Registry ρ} {cache next : Cache} (h : Load r cache next) {identity : Text}
    {loaded : Loaded} (hget : cache.get? identity = some loaded) :
    next.get? identity = some loaded := by
  cases h with
  | same => exact hget
  | @read name text file hresolve hread hnone =>
    have hne : identity ≠ file.identity := by
      rintro rfl
      simp [hnone] at hget
    rw [get?_insert, if_neg hne]
    exact hget

/-- Loads keep the effects that the cache holds. -/
theorem Loads.get? {r : Registry ρ} {cache next : Cache} (h : Loads r cache next) {identity : Text}
    {loaded : Loaded} (hget : cache.get? identity = some loaded) :
    next.get? identity = some loaded := by
  induction h with
  | refl => exact hget
  | tail _ hload ih => exact hload.get? ih

end Cache

/-! ## Loading -/

namespace Memory

/-- A load that succeeds finds the effect in the cache or puts what it has read there. -/
theorem load_eq_ok {m m' : Memory} {r : Registry ρ} {file : SourceFile} {loaded : Loaded}
    (h : m.load r file = (.ok loaded, m')) :
    (m.cache.get? file.identity = some loaded ∧ m' = m) ∨
      (m.cache.get? file.identity = none ∧ ∃ text, r.read file = .ok text ∧
        loaded = ⟨Effect.parse text file.identity (some file), m.cache.parses⟩ ∧
        m'.cache = m.cache.insert file.identity (Effect.parse text file.identity (some file))) := by
  unfold load at h
  cases hget : m.cache.get? file.identity with
  | some found =>
    simp only [hget, Prod.mk.injEq, Except.ok.injEq] at h
    exact Or.inl ⟨by rw [h.1], h.2.symm⟩
  | none =>
    simp only [hget, read] at h
    cases hread : r.read file with
    | error e => simp [hread] at h
    | ok text =>
      simp only [hread, Prod.mk.injEq, Except.ok.injEq] at h
      exact Or.inr ⟨rfl, text, rfl, h.1.symm, by rw [← h.2]⟩

/-- A load fails only with the failure to read the source, and leaves the cache as it is. -/
theorem load_eq_error {m m' : Memory} {r : Registry ρ} {file : SourceFile} {e : Failure}
    (h : m.load r file = (.error e, m')) :
    m.cache.get? file.identity = none ∧ r.read file = .error e ∧ m'.cache = m.cache := by
  unfold load at h
  cases hget : m.cache.get? file.identity with
  | some found => simp [hget] at h
  | none =>
    simp only [hget, read] at h
    cases hread : r.read file with
    | ok text => simp [hread] at h
    | error e' =>
      simp only [hread, Prod.mk.injEq, Except.error.injEq] at h
      exact ⟨rfl, by rw [h.1], by rw [← h.2]⟩

/-- A loaded effect is in the cache from then on. -/
theorem get?_of_load {m m' : Memory} {r : Registry ρ} {file : SourceFile} {loaded : Loaded}
    (h : m.load r file = (.ok loaded, m')) : m'.cache.get? file.identity = some loaded := by
  rcases load_eq_ok h with ⟨hget, rfl⟩ | ⟨-, text, -, rfl, hcache⟩
  · exact hget
  · rw [hcache, Cache.get?_insert, if_pos rfl]

/-- An effect in the cache is loaded from there. -/
theorem load_of_get? {m : Memory} {r : Registry ρ} {file : SourceFile} {loaded : Loaded}
    (h : m.cache.get? file.identity = some loaded) : m.load r file = (.ok loaded, m) := by
  unfold load
  rw [h]

/-- A load of a source that a name resolves to is a load of the cache. -/
theorem load_cache {m : Memory} {r : Registry ρ} {name : Text} {file : SourceFile}
    (hresolve : r.resolve name = .ok file) :
    Cache.Load r m.cache (m.load r file).2.cache := by
  rcases h : m.load r file with ⟨result, m'⟩
  cases result with
  | error e => rw [(load_eq_error h).2.2]; exact .same
  | ok loaded =>
    rcases load_eq_ok h with ⟨-, rfl⟩ | ⟨hnone, text, hread, -, hcache⟩
    · exact .same
    · rw [hcache]; exact .read hresolve hread hnone

end Memory

/-! ## Targets of effect keys -/

/-- An effect key that is found: its source resolves to the file of the target, the effect of the
target is loaded from there, and the section is the best match in that effect. -/
theorem locate_eq_ok {r : Registry ρ} {key : Text} {m m' : Memory} {target : Target}
    (h : locate r key m = (.ok target, m')) :
    ∃ parts loaded, EffectKey.split key = .ok parts ∧ r.resolve parts.source = .ok target.file ∧
      m.load r target.file = (.ok loaded, m') ∧ target.effect = loaded.effect ∧
      loaded.effect.bestSection parts.sectionKey = some target.found ∧
      target.name = parts.source := by
  unfold locate at h
  cases hsplit : EffectKey.split key with
  | error e => simp [hsplit] at h
  | ok parts =>
    simp only [hsplit] at h
    cases hresolve : r.resolve parts.source with
    | error e => simp [hresolve] at h
    | ok file =>
      simp only [hresolve] at h
      rcases hload : m.load r file with ⟨result, after⟩
      cases result with
      | error e => simp [hload] at h
      | ok loaded =>
        simp only [hload] at h
        cases hbest : loaded.effect.bestSection parts.sectionKey with
        | none => simp [hbest] at h
        | some found =>
          simp only [hbest, Prod.mk.injEq, Except.ok.injEq] at h
          obtain ⟨rfl, rfl⟩ := h
          exact ⟨parts, loaded, rfl, hresolve, hload, rfl, hbest, rfl⟩

/-- A key that is not found: it cannot be taken apart, its source does not resolve or load, or the
effect has no section for it. -/
theorem locate_eq_error {r : Registry ρ} {key : Text} {m m' : Memory} {e : Failure}
    (h : locate r key m = (.error e, m')) :
    (EffectKey.split? key = none ∧ e = .effect (.invalidKey key)) ∨
      ∃ parts, EffectKey.split? key = some parts ∧
        (r.resolve parts.source = .error e ∨
          ∃ file, r.resolve parts.source = .ok file ∧
            ((m.cache.get? file.identity = none ∧ r.read file = .error e) ∨
              ∃ loaded, m.load r file = (.ok loaded, m') ∧
                loaded.effect.bestSection parts.sectionKey = none ∧
                e = .effect (.sectionNotFound loaded.effect.identity parts.sectionKey
                  (some key)))) := by
  unfold locate EffectKey.split at h
  cases hsplit : EffectKey.split? key with
  | none =>
    simp only [hsplit, Prod.mk.injEq, Except.error.injEq] at h
    exact Or.inl ⟨rfl, h.1.symm⟩
  | some parts =>
    simp only [hsplit] at h
    refine Or.inr ⟨parts, rfl, ?_⟩
    cases hresolve : r.resolve parts.source with
    | error e' =>
      simp only [hresolve, Prod.mk.injEq, Except.error.injEq] at h
      exact Or.inl (by rw [h.1])
    | ok file =>
      simp only [hresolve] at h
      refine Or.inr ⟨file, rfl, ?_⟩
      rcases hload : m.load r file with ⟨result, after⟩
      cases result with
      | error e' =>
        simp only [hload, Prod.mk.injEq, Except.error.injEq] at h
        obtain ⟨hnone, hread, -⟩ := Memory.load_eq_error hload
        exact Or.inl ⟨hnone, by rw [hread, h.1]⟩
      | ok loaded =>
        simp only [hload] at h
        cases hbest : loaded.effect.bestSection parts.sectionKey with
        | some found => simp [hbest] at h
        | none =>
          simp only [hbest, Prod.mk.injEq, Except.error.injEq] at h
          exact Or.inr ⟨loaded, by rw [h.2], hbest, h.1.symm⟩

/-- Finding the target of a key, whether it succeeds or fails, is a load of the cache. -/
theorem locate_cache (r : Registry ρ) (key : Text) (m : Memory) :
    Cache.Load r m.cache (locate r key m).2.cache := by
  unfold locate
  cases hsplit : EffectKey.split key with
  | error e => exact .same
  | ok parts =>
    cases hresolve : r.resolve parts.source with
    | error e => simp only [hresolve]; exact .same
    | ok file =>
      have hcache := Memory.load_cache (m := m) hresolve
      rcases hload : m.load r file with ⟨result, after⟩
      rw [hload] at hcache
      cases result with
      | error e => simpa only [hresolve, hload] using hcache
      | ok loaded =>
        cases hbest : loaded.effect.bestSection parts.sectionKey with
        | none => simpa only [hresolve, hload, hbest] using hcache
        | some found => simpa only [hresolve, hload, hbest] using hcache

/-- Locating a key changes the cache by a load at most. -/
theorem Cache.load_of_locate {r : Registry ρ} {key : Text} {m m' : Memory}
    {result : Except Failure Target} (h : locate r key m = (result, m')) :
    Cache.Load r m.cache m'.cache := by
  have hload := locate_cache r key m
  rw [h] at hload
  exact hload

/-- A key whose effect the cache holds is found without a change. -/
theorem locate_of_get? {r : Registry ρ} {key : Text} {m : Memory} {parts : EffectKey}
    {file : SourceFile} {loaded : Loaded} {found : Section}
    (hsplit : EffectKey.split key = .ok parts) (hresolve : r.resolve parts.source = .ok file)
    (hget : m.cache.get? file.identity = some loaded)
    (hbest : loaded.effect.bestSection parts.sectionKey = some found) :
    locate r key m = (.ok ⟨parts.source, file, loaded.effect, found⟩, m) := by
  unfold locate
  simp [hsplit, hresolve, Memory.load_of_get? hget, hbest]

/-- The effect of a target that was found is in the cache from then on. -/
theorem get?_of_locate {r : Registry ρ} {key : Text} {m m' : Memory} {target : Target}
    (h : locate r key m = (.ok target, m')) :
    ∃ loaded, m'.cache.get? target.file.identity = some loaded ∧
      loaded.effect = target.effect := by
  obtain ⟨parts, loaded, -, -, hload, heffect, -, -⟩ := locate_eq_ok h
  exact ⟨loaded, Memory.get?_of_load hload, heffect.symm⟩

/-- A key that was found is found again after any number of further loads. -/
theorem locate_again {r : Registry ρ} {key : Text} {m m' : Memory} {target : Target}
    (h : locate r key m = (.ok target, m')) {later : Memory}
    (hloads : Cache.Loads r m'.cache later.cache) :
    locate r key later = (.ok target, later) := by
  obtain ⟨parts, loaded, hsplit, hresolve, -, heffect, hbest, hname⟩ := locate_eq_ok h
  obtain ⟨held, hget, hheld⟩ := get?_of_locate h
  have hbest' : held.effect.bestSection parts.sectionKey = some target.found := by
    rw [hheld, heffect]
    exact hbest
  rw [locate_of_get? hsplit hresolve (hloads.get? hget) hbest', hheld, ← hname]

/-! ## Parsed effects -/

/-- Every effect in the cache was parsed under the identity at which it is kept. -/
def Cache.Parsed (cache : Cache) : Prop :=
  ∀ identity loaded, cache.get? identity = some loaded →
    ∃ text origin, loaded.effect = Effect.parse text identity origin

/-- Every effect of a cache without entries is parsed under its identity. -/
theorem Cache.parsed_of_entries_eq_nil {cache : Cache} (h : cache.entries = []) :
    cache.Parsed := by
  intro identity loaded hget
  simp [Cache.get?, h] at hget

/-- Loads keep the effects parsed under the identities at which they are kept. -/
theorem Cache.Loads.parsed {r : Registry ρ} {cache next : Cache} (h : Cache.Loads r cache next)
    (hcache : cache.Parsed) : next.Parsed := by
  induction h with
  | refl => exact hcache
  | tail _ hload ih =>
    cases hload with
    | same => exact ih
    | @read name text file _ _ _ =>
      intro identity loaded hget
      rw [Cache.get?_insert] at hget
      by_cases hidentity : identity = file.identity
      · rw [if_pos hidentity] at hget
        rw [← Option.some.inj hget, hidentity]
        exact ⟨text, some file, rfl⟩
      · rw [if_neg hidentity] at hget
        exact ih identity loaded hget

/-- Locating a key keeps the effects parsed under their identities, whether it succeeds or fails. -/
theorem Cache.Parsed.locate {r : Registry ρ} {key : Text} {m m' : Memory}
    {result : Except Failure Target} (hm : m.cache.Parsed) (h : locate r key m = (result, m')) :
    m'.cache.Parsed :=
  Cache.Loads.parsed (.single (Cache.load_of_locate h)) hm

/-- An effect that is loaded has the identity of its source file. -/
theorem Cache.Parsed.load {r : Registry ρ} {m m' : Memory} {file : SourceFile} {loaded : Loaded}
    (hm : m.cache.Parsed) (h : m.load r file = (.ok loaded, m')) :
    loaded.effect.identity = file.identity := by
  rcases Memory.load_eq_ok h with ⟨hget, -⟩ | ⟨-, text, -, rfl, -⟩
  · obtain ⟨text, origin, hparse⟩ := hm _ loaded hget
    rw [hparse, Effect.identity_parse]
  · exact Effect.identity_parse text file.identity (some file)

/-- The effect of a target that is found was parsed under the identity of its source file. -/
theorem Cache.Parsed.target {r : Registry ρ} {key : Text} {m m' : Memory} {target : Target}
    (hm : m.cache.Parsed) (h : ShaderCompose.locate r key m = (.ok target, m')) :
    ∃ text origin, target.effect = Effect.parse text target.file.identity origin ∧
      target.found ∈ (Effect.parse text target.file.identity origin).sections := by
  obtain ⟨parts, loaded, -, -, -, heffect, hbest, -⟩ := locate_eq_ok h
  obtain ⟨held, hget, hheld⟩ := get?_of_locate h
  obtain ⟨text, origin, hparse⟩ := hm.locate h _ held hget
  have hfound := Effect.mem_of_bestSection hbest
  rw [← heffect, ← hheld, hparse] at hfound
  exact ⟨text, origin, hheld.symm.trans hparse, hfound⟩

/-- The effect and the section of a target that is found have the identity of its source file. -/
theorem Cache.Parsed.identity {r : Registry ρ} {key : Text} {m m' : Memory} {target : Target}
    (hm : m.cache.Parsed) (h : ShaderCompose.locate r key m = (.ok target, m')) :
    target.effect.identity = target.file.identity ∧
      target.found.id.1 = target.file.identity := by
  obtain ⟨text, origin, hparse, hfound⟩ := hm.target h
  obtain ⟨block, -, hsection⟩ := Effect.mem_sections_parse hfound
  refine ⟨?_, ?_⟩
  · rw [hparse, Effect.identity_parse]
  · rw [hsection]
    rfl

end ShaderCompose
