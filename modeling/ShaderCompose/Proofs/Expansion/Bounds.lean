import Mathlib.Algebra.BigOperators.Group.Finset.Basic
import Mathlib.Algebra.Order.BigOperators.Group.Finset
import Mathlib.Data.Set.Finite.Basic
import ShaderCompose.Proofs.Expansion.Depth
import ShaderCompose.Proofs.Expansion.Outline

/-!
# Bounds on the requests of an expansion

The sections that an expansion can come to are finitely many: those of the effects in the cache and
of the sources that can be read.  No section is begun twice, whatever the keys by which it is
requested, and a request is made for the key itself or for an include line of a section that was
begun.  So the sections bound how deep an expansion goes, and their include lines how many requests
it makes.
-/

set_option autoImplicit false

namespace ShaderCompose

/-! ## Sections at hand -/

/-- The sections at hand are those of the effects in the cache, and those of the effects that can be
read. -/
inductive AtHand (r : Registry) (cache : Cache) : Section → Prop
  | held {identity : Text} {loaded : Loaded} {found : Section} :
      (identity, loaded) ∈ cache.entries → found ∈ loaded.effect.sections → AtHand r cache found
  | readable {name text : Text} {file : SourceFile} {found : Section} :
      r.resolve name = .ok file → r.read file = .ok text →
      found ∈ (Effect.parse text file.identity (some file)).sections → AtHand r cache found

/-- The sections at hand are finitely many, since they are those of finitely many texts and cached
effects. -/
theorem AtHand.finite (r : Registry) (cache : Cache) : {found | AtHand r cache found}.Finite := by
  let held := cache.entries.flatMap fun entry => entry.2.effect.sections
  let readable := r.stock.flatMap fun entry =>
    (entry.1 ++ r.embeddedIdentities).flatMap fun identity =>
      (blocksOf entry.2).map (Block.toSection identity)
  apply (held ++ readable).finite_toSet.subset
  rintro found (⟨hentry, hfound⟩ | ⟨hresolve, hread, hfound⟩)
  · exact List.mem_append_left _ (List.mem_flatMap.mpr ⟨_, hentry, hfound⟩)
  · obtain ⟨block, hblock, rfl⟩ := Effect.mem_sections_parse hfound
    obtain ⟨identities, hstock, hidentity⟩ := Registry.exists_mem_stock_of_resolve hresolve hread
    refine List.mem_append_right _ (List.mem_flatMap.mpr ⟨_, hstock, ?_⟩)
    exact List.mem_flatMap.mpr ⟨_, hidentity, List.mem_map_of_mem hblock⟩

/-- A key that is found after some loads leads to a section that was at hand before them. -/
theorem AtHand.of_locate {r : Registry} {cache : Cache} {key : Text} {m m' : Memory}
    {target : Target} (hloads : Cache.Loads r cache m.cache)
    (h : locate r key m = (.ok target, m')) : AtHand r cache target.found := by
  obtain ⟨parts, loaded, -, -, -, heffect, hbest, -⟩ := locate_eq_ok h
  obtain ⟨held, hget, hheld⟩ := get?_of_locate h
  have hafter : Cache.Loads r cache m'.cache := hloads.tail (Cache.load_of_locate h)
  have hfound : target.found ∈ held.effect.sections := by
    rw [hheld, heffect]
    exact Effect.mem_of_bestSection hbest
  rcases hafter.mem_entries (Cache.mem_entries_of_get? hget) with hentry | hread
  · exact .held hentry hfound
  · obtain ⟨name, file, text, hresolve, hread, hparse⟩ := hread
    rw [show held.effect = _ from hparse] at hfound
    exact .readable hresolve hread hfound

/-! ## The depth -/

/-- The sections that were begun are among those that were at hand with a cache from which the one
of the state comes by loads. -/
structure Within (r : Registry) (cache : Cache) (s : Expansion) : Prop where
  loads : Cache.Loads r cache s.memory.cache
  begun {id : SectionId} : id ∈ s.expanded → ∃ found, AtHand r cache found ∧ found.id = id

/-- At its start an expansion is within bounds: it has begun no section. -/
theorem Within.start (r : Registry) (m : Memory) : Within r m.cache (.start m) :=
  ⟨.refl, fun hid => by simp [Expansion.start] at hid⟩

/-- Every step of an expansion stays within bounds, since the sections that it comes to are at
hand. -/
theorem Within.invariant (r : Registry) (cache : Cache) :
    Invariant r fun _ s => Within r cache s where
  looked hlocate h := ⟨h.loads.tail (Cache.load_of_locate hlocate), h.begun⟩
  warned _ _ h := ⟨h.loads, h.begun⟩
  begun {chain key s target m} hlocate _ _ h := by
    refine ⟨?_, ?_⟩
    · rw [Expansion.memory_begin]
      exact h.loads.tail (Cache.load_of_locate hlocate)
    · intro id hid
      rw [Expansion.expanded_begin, List.mem_append, List.mem_singleton] at hid
      rcases hid with hid | rfl
      · exact h.begun hid
      · exact ⟨target.found, .of_locate h.loads hlocate, rfl⟩
  left h := h

/-- There are not more sections being expanded than there are at hand. -/
theorem Stacked.length_le_card {r : Registry} {cache : Cache} {chain : Chain} {s : Expansion}
    (hstack : Stacked chain s) (h : Within r cache s) {sections : Finset Section}
    (hsections : ∀ found, AtHand r cache found → found ∈ sections) :
    chain.length ≤ (sections.image Section.id).card := by
  have hsubset : (chain.map Prod.fst).toFinset ⊆ sections.image Section.id := by
    intro id hid
    obtain ⟨found, hfound, rfl⟩ := h.begun (hstack.current (List.mem_toFinset.mp hid))
    exact Finset.mem_image_of_mem _ (hsections found hfound)
  calc chain.length = (chain.map Prod.fst).toFinset.card := by
        rw [List.toFinset_card_of_nodup hstack.distinct, List.length_map]
    _ ≤ (sections.image Section.id).card := Finset.card_le_card hsubset

/-! ## The number of requests -/

/-- The requests that a job is sure to make by itself. -/
def Job.includeCount : Job → Nat
  | .request _ _ => 1
  | .copy _ _ _ lines _ => ShaderCompose.includeCount lines

/-- One more line adds one to the count if it is an include line. -/
theorem includeCount_cons (entry : Nat × Text) (rest : List (Nat × Text)) :
    includeCount (entry :: rest) =
      includeCount rest + if (Include.key? entry.2).isSome then 1 else 0 := by
  simp [includeCount, List.countP_cons]

/-- A request beyond those of the job itself is for an include line of a section that is begun. -/
theorem Traced.length_le {r : Registry} {places : List Nat} {job : Job} {s s' : Expansion}
    {made : List Call} {result : Except Failure (List CodeLine)}
    (h : Traced r places job s made result s') :
    made.length ≤ job.includeCount +
      totalOf (fun target => includeCount target.found.lines) (made.filterMap Call.entered) := by
  -- there may be fewer requests, since the lines behind a failure make none
  induction h with
  | unlocated | cyclic | repeated => simp [Job.includeCount]
  | unfolded _ _ _ _ ih =>
    simp only [Job.includeCount, List.filterMap_cons, totalOf_cons, List.length_cons] at ih ⊢
    omega
  | ended => simp
  | refused hkey _ ih =>
    simp only [Job.includeCount] at ih ⊢
    rw [includeCount_cons, hkey, Option.isSome_some, if_pos rfl]
    omega
  | included hkey _ _ ihrequest ihrest =>
    simp only [Job.includeCount] at ihrequest ihrest ⊢
    rw [includeCount_cons, hkey, Option.isSome_some, if_pos rfl, List.filterMap_append,
      totalOf_append, List.length_append]
    omega
  | copied hkey _ ih =>
    simp only [Job.includeCount] at ih ⊢
    rw [includeCount_cons, hkey]
    simpa using ih

/-- The total over a list without duplicates is the sum over the set of its members. -/
theorem totalOf_eq_sum {α : Type} [DecidableEq α] (count : α → Nat) {items : List α}
    (h : items.Nodup) : totalOf count items = ∑ item ∈ items.toFinset, count item := by
  induction items with
  | nil => rfl
  | cons item rest ih =>
    obtain ⟨hnew, hrest⟩ := List.nodup_cons.mp h
    rw [totalOf_cons, ih hrest, List.toFinset_cons,
      Finset.sum_insert fun hmem => hnew (List.mem_toFinset.mp hmem)]

/-- The total over the images of items is the total over the items, each counted as its image. -/
theorem totalOf_map {α β : Type} (count : β → Nat) (f : α → β) (items : List α) :
    totalOf count (items.map f) = totalOf (fun item => count (f item)) items := by
  induction items with
  | nil => rfl
  | cons item rest ih => rw [List.map_cons, totalOf_cons, totalOf_cons, ih]

/-- A count over different sections of a set is not more than the count over the set. -/
theorem totalOf_found_le {targets : List Target} {sections : Finset Section}
    (count : Section → Nat) (hnodup : (targets.map fun target => target.found.id).Nodup)
    (hmem : ∀ target ∈ targets, target.found ∈ sections) :
    totalOf (fun target => count target.found) targets ≤ ∑ found ∈ sections, count found := by
  have hfound : (targets.map Target.found).Nodup := by
    apply List.Nodup.of_map Section.id
    rwa [List.map_map]
  have hsubset : (targets.map Target.found).toFinset ⊆ sections := by
    intro found hmap
    obtain ⟨target, htarget, rfl⟩ := List.mem_map.mp (List.mem_toFinset.mp hmap)
    exact hmem target htarget
  calc totalOf (fun target => count target.found) targets
      = totalOf count (targets.map Target.found) := (totalOf_map count Target.found targets).symm
    _ = ∑ found ∈ (targets.map Target.found).toFinset, count found := totalOf_eq_sum count hfound
    _ ≤ ∑ found ∈ sections, count found := Finset.sum_le_sum_of_subset hsubset

/-- No request fails for being nested too deeply. -/
theorem Call.Fails.ne_nesting {r : Registry} {call : Call} {e : Failure} (h : call.Fails r e) :
    e ≠ .nesting := by
  rintro rfl
  rcases h with ⟨m, hlocate⟩ | ⟨target, m, -, -, he⟩
  · exact locate_ne_nesting r call.key call.before.memory (by rw [hlocate])
  · simp at he

/-- An expansion ends, with code or a failure that is not for its depth.  The sections at hand are
finitely many.  No more of them are being expanded at a time than there are different ones, and the
requests are not more than the include lines of all of them, and one. -/
theorem expand_bounded (r : Registry) (key : Text) (m : Memory) :
    (∃ result s, Traced r [] (.request [] key) (.start m) (calls r key m) result s ∧
      result ≠ .error .nesting ∧ expand r key m =
        (result.map fun code => (⟨code, s.files, s.warnings⟩ : Expanded), s.memory)) ∧
    ∃ sections : Finset Section, (∀ found, found ∈ sections ↔ AtHand r m.cache found) ∧
      (∀ call ∈ calls r key m, call.stack.length ≤ (sections.image Section.id).card) ∧
      (calls r key m).length ≤ 1 + ∑ found ∈ sections, includeCount found.lines := by
  obtain ⟨result, s, htraced, hexpand⟩ := expand_traced r key m
  refine ⟨⟨result, s, htraced, ?_, hexpand⟩, (AtHand.finite r m.cache).toFinset, ?_, ?_, ?_⟩
  · rintro rfl
    obtain ⟨earlier, last, -, -, hfails⟩ := htraced.last_fails rfl
    exact hfails.ne_nesting rfl
  · exact fun found => (AtHand.finite r m.cache).mem_toFinset
  · intro call hcall
    obtain ⟨-, ⟨t, hstack, hwithin⟩, -⟩ := htraced.keeps
      ((Stacked.invariant r).and (Within.invariant r m.cache)) ⟨.start m, .start r m⟩ call hcall
    exact hstack.length_le_card hwithin fun found => (AtHand.finite r m.cache).mem_toFinset.mpr
  · -- a section is entered once, so its include lines are counted once
    have honce := (htraced.runs.keeps (Stacked.invariant r) (.start m)).once
    rw [htraced.expanded_eq] at honce
    have hlength := htraced.length_le
    rw [Job.includeCount] at hlength
    refine hlength.trans (Nat.add_le_add_left ?_ 1)
    refine totalOf_found_le (fun found => includeCount found.lines) honce ?_
    intro target htarget
    obtain ⟨call, hcall, hentered⟩ := List.mem_filterMap.mp htarget
    obtain ⟨m', hlocate⟩ := htraced.locate_entered call hcall target hentered
    obtain ⟨hwithin, -, -⟩ := htraced.keeps (Within.invariant r m.cache) (.start r m) call hcall
    exact (AtHand.finite r m.cache).mem_toFinset.mpr (.of_locate hwithin.loads hlocate)

end ShaderCompose
