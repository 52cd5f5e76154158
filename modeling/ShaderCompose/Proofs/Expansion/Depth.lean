import Mathlib.Data.List.Nodup
import Mathlib.Data.List.Perm.Subperm
import ShaderCompose.Proofs.Expansion.Calls
import ShaderCompose.Proofs.Source.Holdings

/-!
# The bound on the depth is never reached

The sections that are being expanded differ from each other, and each of them is a section of an
effect that was in the cache or of a text at hand under one of its identities.  There are fewer of
these than the bound on the depth, so an expansion never fails for being nested too deeply, and
what it computes is what the evaluation relation allows.
-/

set_option autoImplicit false

namespace ShaderCompose

/-! ## Sections that can be requested -/

/-- The sections of the effects in a cache. -/
def Cache.sectionIds (cache : Cache) : List SectionId :=
  cache.entries.flatMap fun entry => entry.2.effect.sections.map Section.id

/-- The sections of a text under an identity. -/
def sectionIdsOf (text identity : Text) : List SectionId :=
  (blocksOf text).map fun block => (identity, block.key)

/-- The sections of texts in stock, each under its own identities and some more. -/
def stockIds (more : List Text) (stock : List (List Text × Text)) : List SectionId :=
  stock.flatMap fun entry => (entry.1 ++ more).flatMap (sectionIdsOf entry.2)

/-- The sections that can be requested of a registry with a cache. -/
def knownIds (r : Registry) (cache : Cache) : List SectionId :=
  cache.sectionIds ++ stockIds r.embeddedIdentities r.stock

/-- The number of sections in a cache is added up over its effects. -/
theorem length_sectionIds (cache : Cache) :
    cache.sectionIds.length =
      totalOf (fun entry => entry.2.effect.sections.length) cache.entries := by
  unfold Cache.sectionIds totalOf
  induction cache.entries with
  | nil => rfl
  | cons entry rest ih => simp [ih]

/-- A text has as many sections under some identities as it has lines that start one, for each
identity. -/
theorem length_flatMap_sectionIdsOf (text : Text) (identities : List Text) :
    (identities.flatMap (sectionIdsOf text)).length = identities.length * separatorCount text := by
  induction identities with
  | nil => simp
  | cons identity rest ih =>
    simp only [List.flatMap_cons, List.length_append, ih, List.length_cons]
    simp only [sectionIdsOf, separatorCount, List.length_map]
    rw [Nat.succ_mul, Nat.add_comm]

/-- Texts that go by two identities at most have a bounded number of sections. -/
theorem length_stockIds_le (more : List Text) {stock : List (List Text × Text)}
    (h : ∀ entry ∈ stock, entry.1.length ≤ 2) :
    (stockIds more stock).length ≤
      (more.length + 2) * totalOf separatorCount (stock.map Prod.snd) := by
  induction stock with
  | nil => simp [stockIds]
  | cons entry rest ih =>
    have hentry : entry.1.length ≤ 2 := h entry List.mem_cons_self
    have hrest := ih fun other hother => h other (List.mem_cons_of_mem _ hother)
    have hcons : stockIds more (entry :: rest) =
        (entry.1 ++ more).flatMap (sectionIdsOf entry.2) ++ stockIds more rest := by
      simp [stockIds]
    have htotal : totalOf separatorCount ((entry :: rest).map Prod.snd) =
        separatorCount entry.2 + totalOf separatorCount (rest.map Prod.snd) := rfl
    rw [hcons, htotal, List.length_append, length_flatMap_sectionIdsOf, List.length_append,
      Nat.mul_add]
    have hfirst : (entry.1.length + more.length) * separatorCount entry.2 ≤
        (more.length + 2) * separatorCount entry.2 :=
      Nat.mul_le_mul_right _ (by omega)
    omega

/-- There are fewer sections that can be requested than the bound on the depth. -/
theorem length_knownIds_lt (r : Registry) (m : Memory) :
    (knownIds r m.cache).length < depthBound r m := by
  have hstock := length_stockIds_le r.embeddedIdentities fun _ h => r.length_identities_le h
  rw [r.map_snd_stock, Registry.embeddedIdentities, List.length_map] at hstock
  have hcache := length_sectionIds m.cache
  unfold knownIds depthBound
  rw [List.length_append, Registry.embeddedIdentities]
  omega

/-- After loads, an effect in the cache was there before, or was read and parsed. -/
theorem Cache.Loads.mem_entries {r : Registry} {cache next : Cache} (h : Cache.Loads r cache next)
    {entry : Text × Loaded} (hentry : entry ∈ next.entries) :
    entry ∈ cache.entries ∨ ∃ name file text, r.resolve name = .ok file ∧
      r.read file = .ok text ∧
      entry.2.effect = Effect.parse text file.identity (some file) := by
  induction h with
  | refl => exact Or.inl hentry
  | tail _ hload ih =>
    cases hload with
    | same => exact ih hentry
    | @read name text file hresolve hread hnone =>
      rcases Cache.mem_entries_insert hentry with hentry | rfl
      · exact ih hentry
      · exact Or.inr ⟨name, file, text, hresolve, hread, rfl⟩

/-- The section of a key that is found is among those that can be requested. -/
theorem mem_knownIds_of_locate {r : Registry} {cache : Cache} {key : Text} {m m' : Memory}
    {target : Target} (hloads : Cache.Loads r cache m.cache)
    (h : locate r key m = (.ok target, m')) : target.found.id ∈ knownIds r cache := by
  obtain ⟨parts, loaded, -, -, -, heffect, hbest, -⟩ := locate_eq_ok h
  have hafter : Cache.Loads r cache m'.cache := hloads.tail (Cache.load_of_locate h)
  obtain ⟨held, hget, hheld⟩ := get?_of_locate h
  have hsections : target.found ∈ held.effect.sections := by
    rw [hheld, heffect]
    exact Effect.mem_of_bestSection hbest
  rcases hafter.mem_entries (Cache.mem_entries_of_get? hget) with hentry | hread
  · refine List.mem_append_left _ (List.mem_flatMap.mpr ⟨_, hentry, ?_⟩)
    exact List.mem_map.mpr ⟨target.found, hsections, rfl⟩
  · obtain ⟨name, file, text, hresolve, hread, heffect⟩ := hread
    dsimp only at heffect
    rw [heffect] at hsections
    obtain ⟨block, hblock, hsection⟩ := Effect.mem_sections_parse hsections
    obtain ⟨identities, hstock, hidentity⟩ := Registry.exists_mem_stock_of_resolve hresolve hread
    refine List.mem_append_right _ (List.mem_flatMap.mpr ⟨_, hstock, ?_⟩)
    refine List.mem_flatMap.mpr ⟨file.identity, hidentity, ?_⟩
    exact List.mem_map.mpr ⟨block, hblock, by rw [hsection]; rfl⟩

/-! ## Failures for nesting -/

variable {ρ : Type} [SourceReader ρ]

/-- Whether a failure is about how sections are nested, and not about a single key. -/
def Failure.ofNesting : Failure → Bool
  | .nesting => true
  | .effect (.cyclicInclude _) => true
  | _ => false

/-- A name that does not resolve fails for another reason than nesting. -/
theorem Registry.ofNesting_of_resolve {r : Registry ρ} {name : Text} {e : Failure}
    (h : r.resolve name = .error e) : e.ofNesting = false := by
  rcases r.resolve_forms name with ⟨d, package, -, -, hform⟩ | ⟨locations, detail, hform⟩
  · rw [hform] at h
    cases package with
    | none | text => simp [Argument.expectText?, Except.map] at h
    | _ =>
      rw [← Except.error.inj h]
      rfl
  · rw [hform] at h
    rcases r.firstExisting_cases (Text.replaceChar '\\' '/' name) detail locations with
      ⟨location, -, hok⟩ | herror
    · simp [hok] at h
    · rw [← Except.error.inj (herror.symm.trans h)]
      rfl

/-- A source that cannot be read fails for another reason than nesting. -/
theorem Registry.ofNesting_of_read {r : Registry ρ} {file : SourceFile} {e : Failure}
    (h : r.read file = .error e) : e.ofNesting = false := by
  unfold read at h
  split at h
  · split at h <;> (rw [← Except.error.inj h]; rfl)
  · split at h <;> (rw [← Except.error.inj h]; rfl)
  · rw [← Except.error.inj h]
    rfl
  · split at h
    · simp at h
    · rw [← Except.error.inj h]
      rfl

/-- A key that is not found fails for another reason than nesting. -/
theorem ofNesting_of_locate {r : Registry ρ} {key : Text} {m m' : Memory} {e : Failure}
    (h : locate r key m = (.error e, m')) : e.ofNesting = false := by
  rcases locate_eq_error h with ⟨-, rfl⟩ |
    ⟨parts, -, hresolve | ⟨file, -, ⟨-, hread⟩ | ⟨loaded, -, -, rfl⟩⟩⟩
  · rfl
  · exact Registry.ofNesting_of_resolve hresolve
  · exact Registry.ofNesting_of_read hread
  · rfl

/-- Finding the section of a key does not fail for depth. -/
theorem locate_ne_nesting (r : Registry ρ) (key : Text) (m : Memory) :
    (locate r key m).1 ≠ .error .nesting := by
  rcases hlocate : locate r key m with ⟨result, m'⟩
  rintro rfl
  exact absurd (ofNesting_of_locate hlocate) (by simp [Failure.ofNesting])

/-! ## Searches within a list of sections -/

/-- The keys of the include lines of a section that is requested as the target, in order. -/
def Target.includeKeys (target : Target) : List Text :=
  target.found.lines.filterMap fun entry =>
    (Include.key? entry.2).map (Include.relativeTo (Path.directory target.name))

/-- The key of an include line of the section, taken from the directory of the target, is one of the
keys that the target includes. -/
theorem Target.mem_includeKeys {target : Target} {number : Nat} {line key : Text}
    (hline : (number, line) ∈ target.found.lines) (hkey : Include.key? line = some key) :
    Include.relativeTo (Path.directory target.name) key ∈ target.includeKeys :=
  List.mem_filterMap.mpr ⟨(number, line), hline, by rw [hkey]; rfl⟩

/-- Every key that a target includes comes from an include line of its section. -/
theorem Target.exists_of_mem_includeKeys {target : Target} {inner : Text}
    (h : inner ∈ target.includeKeys) :
    ∃ number line key, (number, line) ∈ target.found.lines ∧ Include.key? line = some key ∧
      Include.relativeTo (Path.directory target.name) key = inner := by
  obtain ⟨⟨number, line⟩, hline, hinner⟩ := List.mem_filterMap.mp h
  obtain ⟨key, hkey, hrelative⟩ := Option.map_eq_some_iff.mp hinner
  exact ⟨number, line, key, hline, hkey, hrelative⟩

/-- A search through some keys stays within a list of sections: their sections are listed, and what
these include is searched as well.  This goes for the caches with a property that loads keep. -/
structure Registry.Confines (r : Registry ρ) (asked : Text → Prop) (held : Cache → Prop)
    (sections : List SectionId) : Prop where
  load {cache next : Cache} : held cache → Cache.Load r cache next → held next
  found {key : Text} {m m' : Memory} {target : Target} : asked key → held m.cache →
    locate r key m = (.ok target, m') → target.found.id ∈ sections
  includes {key inner : Text} {m m' : Memory} {target : Target} : asked key → held m.cache →
    locate r key m = (.ok target, m') → inner ∈ target.includeKeys → asked inner

/-- Loads keep what a load keeps. -/
theorem Registry.Confines.loads {r : Registry ρ} {asked : Text → Prop} {held : Cache → Prop}
    {sections : List SectionId} (h : r.Confines asked held sections) {cache next : Cache}
    (hcache : held cache) (hloads : Cache.Loads r cache next) : held next := by
  induction hloads with
  | refl => exact hcache
  | tail _ hload ih => exact h.load ih hload

/-- Copying lines does not fail for depth if no request does that they make in a state with the
given property, and requests keep the property. -/
theorem expandLines_ne_nesting {P : Expansion → Prop} {dir : Text} {index : Nat}
    {request : Text → Expansion → Except Failure (List CodeLine) × Expansion}
    {lines : List (Nat × Text)}
    (hrequest : ∀ number line key s, (number, line) ∈ lines → Include.key? line = some key → P s →
      (request (Include.relativeTo dir key) s).1 ≠ .error .nesting ∧
        P (request (Include.relativeTo dir key) s).2)
    (pending : Bool) {s : Expansion} (hs : P s) :
    (expandLines request dir index lines pending s).1 ≠ .error .nesting := by
  induction lines generalizing pending s with
  | nil => simp [expandLines]
  | cons entry rest ih =>
    have hlater := ih fun number line key s hmem =>
      hrequest number line key s (List.mem_cons_of_mem _ hmem)
    obtain ⟨number, line⟩ := entry
    cases hkey : Include.key? line with
    | some key =>
      obtain ⟨hne, ht⟩ := hrequest number line key s List.mem_cons_self hkey hs
      rcases hr : request (Include.relativeTo dir key) s with ⟨result, t⟩
      rw [hr] at hne ht
      cases result with
      | error e => simpa [expandLines, hkey, hr] using hne
      | ok inner =>
        have hrest := hlater true ht
        rcases hcopy : expandLines request dir index rest true t with ⟨tail, s'⟩
        rw [hcopy] at hrest
        cases tail with
        | error e => simpa only [expandLines, hkey, hr, hcopy] using hrest
        | ok tail => simp [expandLines, hkey, hr, hcopy]
    | none =>
      have hrest := hlater (pending && !(pending && !isVersionLine line)) hs
      rcases hcopy : expandLines request dir index rest
        (pending && !(pending && !isVersionLine line)) s with ⟨tail, s'⟩
      rw [hcopy] at hrest
      cases tail with
      | error e => simpa only [expandLines, hkey, hcopy] using hrest
      | ok tail => simp only [expandLines, hkey, hcopy]; simp

/-- A chain of different sections that are listed is not longer than the list. -/
theorem length_chain_le {chain : Chain} {sections : List SectionId}
    (hnodup : (chain.map Prod.fst).Nodup)
    (hlisted : ∀ id ∈ chain.map Prod.fst, id ∈ sections) : chain.length ≤ sections.length := by
  have hperm := List.subperm_of_subset hnodup hlisted
  simpa using hperm.length_le

/-- Expanding a key does not fail for depth as long as the bound allows for all sections that are
listed and are not in the chain yet. -/
theorem Registry.Confines.expandKey_ne_nesting {r : Registry ρ} {asked : Text → Prop}
    {held : Cache → Prop} {sections : List SectionId} (h : r.Confines asked held sections)
    (depth : Nat) {chain : Chain} (hnodup : (chain.map Prod.fst).Nodup)
    (hlisted : ∀ id ∈ chain.map Prod.fst, id ∈ sections)
    (hdepth : sections.length < chain.length + depth) {key : Text} (hkey : asked key)
    {s : Expansion} (hs : held s.memory.cache) :
    (expandKey r depth chain key s).1 ≠ .error .nesting := by
  induction depth generalizing chain key s with
  | zero =>
    have hlength := length_chain_le hnodup hlisted
    omega
  | succ depth ih =>
    have hlocated := locate_ne_nesting r key s.memory
    rcases hlocate : locate r key s.memory with ⟨result, m⟩
    rw [hlocate] at hlocated
    cases result with
    | error e => simpa only [expandKey, hlocate, ne_eq, Except.error.injEq] using hlocated
    | ok target =>
      simp only [expandKey, hlocate]
      by_cases hany : chain.any (·.1 == target.found.id) = true
      · simp [hany]
      · rw [if_neg hany]
        split
        · simp
        · have hfound : target.found.id ∈ sections := h.found hkey hs hlocate
          have hfresh : target.found.id ∉ chain.map Prod.fst := by
            intro hmem
            exact hany (by simpa using hmem)
          -- the section is new in the chain, and one step of depth is used up for it
          have hinner : ∀ inner (t : Expansion), asked inner → held t.memory.cache →
              (expandKey r depth (chain ++ [(target.found.id, key)]) inner t).1 ≠
                .error .nesting := by
            intro inner t hinner ht
            apply ih _ _ _ hinner ht
            · rw [List.map_append]
              exact hnodup.append (List.nodup_singleton _) (List.disjoint_singleton.mpr hfresh)
            · intro id hid
              rw [List.map_append] at hid
              rcases List.mem_append.mp hid with hid | hid
              · exact hlisted id hid
              · obtain rfl : id = target.found.id := by simpa using hid
                exact hfound
            · rw [List.length_append, List.length_singleton]
              omega
          apply expandLines_ne_nesting (P := fun t => held t.memory.cache)
          · intro number line named t hline hnamed ht
            have hincluded := Target.mem_includeKeys hline hnamed
            have hne := hinner _ t (h.includes hkey hs hlocate hincluded) ht
            exact ⟨hne, h.loads ht (expandKey_runs _ _ _ _ hne).loads⟩
          · rw [Expansion.memory_begin]
            exact h.load hs (Cache.load_of_locate hlocate)

/-- Expanding a key from the start does not fail for depth if the bound is above the number of
sections that are listed. -/
theorem Registry.Confines.start_ne_nesting {r : Registry ρ} {asked : Text → Prop}
    {held : Cache → Prop} {sections : List SectionId} (h : r.Confines asked held sections)
    {depth : Nat} (hdepth : sections.length < depth) {key : Text} (hkey : asked key) {m : Memory}
    (hm : held m.cache) : (expandKey r depth [] key (.start m)).1 ≠ .error .nesting :=
  h.expandKey_ne_nesting depth (by simp) (by simp)
    (by rw [List.length_nil]; omega) hkey hm

/-- All searches stay within the sections that can be requested. -/
theorem confines_knownIds (r : Registry) (cache : Cache) :
    r.Confines (fun _ => True) (Cache.Loads r cache) (knownIds r cache) where
  load hloads hload := hloads.tail hload
  found _ hloads hlocate := mem_knownIds_of_locate hloads hlocate
  includes _ _ _ _ := trivial

/-! ## Expansions are runs -/

/-- What an expansion gives that does not fail for depth is what comes of the request for its key,
with nothing begun yet, and the requests that are made for it are traced. -/
theorem expandWithin_traced {r : Registry ρ} {depth : Nat} {key : Text} {m : Memory}
    (h : (expandKey r depth [] key (.start m)).1 ≠ .error .nesting) :
    ∃ result s,
      Traced r [] (.request [] key) (.start m) (callsOfKey r depth [] [] key (.start m)) result s ∧
      expandWithin r depth key m =
        (result.map fun code => (⟨code, s.files, s.warnings⟩ : Expanded), s.memory) := by
  refine ⟨_, _, callsOfKey_traced _ [] [] _ _ h, ?_⟩
  unfold expandWithin
  rcases expandKey r depth [] key (.start m) with ⟨result, s⟩
  cases result <;> rfl

/-- The bound on the depth is enough for every key. -/
theorem expandKey_start_ne_nesting (r : Registry) (key : Text) (m : Memory) :
    (expandKey r (depthBound r m + 1) [] key (.start m)).1 ≠ .error .nesting := by
  have hdepth := length_knownIds_lt r m
  exact (confines_knownIds r m.cache).start_ne_nesting (by omega) trivial .refl

/-- What an expansion gives is what comes of the request for its key, with nothing begun yet, and
`calls` lists the requests that are made for it. -/
theorem expand_traced (r : Registry) (key : Text) (m : Memory) :
    ∃ result s, Traced r [] (.request [] key) (.start m) (calls r key m) result s ∧
      expand r key m =
        (result.map fun code => (⟨code, s.files, s.warnings⟩ : Expanded), s.memory) :=
  expandWithin_traced (expandKey_start_ne_nesting r key m)

/-- What an expansion gives is what comes of the request for its key. -/
theorem expand_runs (r : Registry) (key : Text) (m : Memory) :
    ∃ result s, Runs r (.request [] key) (.start m) result s ∧
      expand r key m =
        (result.map fun code => (⟨code, s.files, s.warnings⟩ : Expanded), s.memory) := by
  obtain ⟨result, s, htraced, hexpand⟩ := expand_traced r key m
  exact ⟨result, s, htraced.runs, hexpand⟩

/-- What comes of the request for a key, with nothing begun yet, is what its expansion gives. -/
theorem expand_eq_of_runs {r : Registry} {key : Text} {m : Memory} {s : Expansion}
    {result : Except Failure (List CodeLine)} (h : Runs r (.request [] key) (.start m) result s) :
    expand r key m =
      (result.map fun code => (⟨code, s.files, s.warnings⟩ : Expanded), s.memory) := by
  obtain ⟨other, t, hruns, hexpand⟩ := expand_runs r key m
  obtain ⟨rfl, rfl⟩ := h.unique hruns
  exact hexpand

/-- Any depth at which the request for a key succeeds is enough for its expansion. -/
theorem expand_eq_ok_of_depth {r : Registry} {key : Text} {m : Memory} {s : Expansion} (depth : Nat)
    {code : List CodeLine} (h : expandKey r depth [] key (.start m) = (.ok code, s)) :
    expand r key m = (.ok ⟨code, s.files, s.warnings⟩, s.memory) := by
  have hruns := expandKey_runs (r := r) depth [] key (.start m) (by rw [h]; simp)
  rw [h] at hruns
  exact expand_eq_of_runs hruns

/-- An expansion that succeeds is a run that gives the code. -/
theorem runs_of_expand_eq_ok {r : Registry} {key : Text} {m m' : Memory} {expanded : Expanded}
    (h : expand r key m = (.ok expanded, m')) :
    ∃ s, Runs r (.request [] key) (.start m) (.ok expanded.code) s ∧
      expanded.files = s.files ∧ expanded.warnings = s.warnings ∧ m' = s.memory := by
  obtain ⟨result, s, hruns, hexpand⟩ := expand_runs r key m
  rw [hexpand, Prod.mk.injEq] at h
  obtain ⟨hresult, rfl⟩ := h
  cases result with
  | error e => simp [Except.map] at hresult
  | ok code =>
    obtain rfl : (⟨code, s.files, s.warnings⟩ : Expanded) = expanded := by
      simpa [Except.map] using hresult
    exact ⟨s, hruns, rfl, rfl, rfl⟩

end ShaderCompose
