import Mathlib.Data.List.Forall2
import Mathlib.Data.List.MinMax
import ShaderCompose.Effect.Match

/-!
# The best section

The search for the section of a requested key goes through the sections once and keeps the better
of what it has and what it meets.  So it finds the first section with a longest key among those that
are for the key.  Everything else about the search is derived from that.
-/

set_option autoImplicit false

namespace ShaderCompose

namespace Section

/-- A section is for a request if its key, in lower case, starts the request in lower case. -/
theorem isFor_iff {s : Section} {requested : Text} :
    s.isFor requested = true ↔ Text.lower s.key <+: Text.lower requested :=
  List.isPrefixOf_iff_prefix

/-- Keeping the better of two sections all along gives the first one with a longest key. -/
theorem foldl_better (sections : List Section) :
    sections.foldl Section.better none = sections.argmax fun s => s.key.length := by
  unfold List.argmax
  congr 1
  funext found s
  cases found with
  | none => rfl
  | some t => rfl

/-- Leaving sections out keeps the order of the others. -/
theorem idxOf_filter_le_iff {p : Section → Bool} {sections : List Section} {s t : Section}
    (hs : p s = true) (ht : p t = true) :
    (sections.filter p).idxOf s ≤ (sections.filter p).idxOf t ↔
      sections.idxOf s ≤ sections.idxOf t := by
  induction sections with
  | nil => rfl
  | cons u rest ih =>
    by_cases hu : p u = true
    · rw [List.filter_cons_of_pos hu]
      by_cases hus : u = s
      · subst hus
        simp only [List.idxOf_cons_self, Nat.zero_le]
      · rw [List.idxOf_cons_ne _ hus, List.idxOf_cons_ne _ hus]
        by_cases hut : u = t
        · subst hut
          rw [List.idxOf_cons_self, List.idxOf_cons_self]
          omega
        · rw [List.idxOf_cons_ne _ hut, List.idxOf_cons_ne _ hut, Nat.succ_le_succ_iff,
            Nat.succ_le_succ_iff, ih]
    · have hus : u ≠ s := by
        rintro rfl
        exact hu hs
      have hut : u ≠ t := by
        rintro rfl
        exact hu ht
      rw [List.filter_cons_of_neg hu, List.idxOf_cons_ne _ hus, List.idxOf_cons_ne _ hut,
        Nat.succ_le_succ_iff, ih]

end Section

namespace Effect

variable {effect : Effect} {requested : Text} {s : Section}

/-- The best section is the first one with a longest key among those for the request. -/
theorem bestSection_eq_argmax (effect : Effect) (requested : Text) :
    effect.bestSection requested =
      (effect.sections.filter (·.isFor requested)).argmax fun s => s.key.length :=
  Section.foldl_better _

/-- An effect has no best section for a key exactly if none of its sections is for the key. -/
theorem bestSection_eq_none_iff : effect.bestSection requested = none ↔
    ∀ found ∈ effect.sections, found.isFor requested = false := by
  rw [bestSection_eq_argmax, List.argmax_eq_none, List.filter_eq_nil_iff]
  simp only [Bool.not_eq_true]

/-- The best section for a key is the one, among those that are for the key, with a longest key, and
the first of these. -/
theorem bestSection_eq_some_iff : effect.bestSection requested = some s ↔
    s ∈ effect.sections ∧ s.isFor requested = true ∧
      (∀ t ∈ effect.sections, t.isFor requested = true → t.key.length ≤ s.key.length) ∧
        ∀ t ∈ effect.sections, t.isFor requested = true → s.key.length ≤ t.key.length →
          effect.sections.idxOf s ≤ effect.sections.idxOf t := by
  rw [bestSection_eq_argmax, List.argmax_eq_some_iff, List.mem_filter]
  constructor
  · rintro ⟨⟨hs, hfor⟩, hlongest, hfirst⟩
    refine ⟨hs, hfor, ?_, ?_⟩
    · intro t ht hmatch
      exact hlongest t (List.mem_filter.mpr ⟨ht, hmatch⟩)
    · intro t ht hmatch hlength
      have hindex := hfirst t (List.mem_filter.mpr ⟨ht, hmatch⟩) hlength
      exact (Section.idxOf_filter_le_iff hfor hmatch).mp hindex
  · rintro ⟨hs, hfor, hlongest, hfirst⟩
    refine ⟨⟨hs, hfor⟩, ?_, ?_⟩
    · intro t ht
      obtain ⟨hmem, hmatch⟩ := List.mem_filter.mp ht
      exact hlongest t hmem hmatch
    · intro t ht hlength
      obtain ⟨hmem, hmatch⟩ := List.mem_filter.mp ht
      exact (Section.idxOf_filter_le_iff hfor hmatch).mpr (hfirst t hmem hmatch hlength)

/-- The section that best matches a key is a section of the effect. -/
theorem mem_of_bestSection (h : effect.bestSection requested = some s) : s ∈ effect.sections :=
  (bestSection_eq_some_iff.mp h).1

/-- The best section is for the request. -/
theorem isFor_of_bestSection (h : effect.bestSection requested = some s) :
    s.isFor requested = true :=
  (bestSection_eq_some_iff.mp h).2.1

/-- If a section is for a request, then there is a best one. -/
theorem exists_bestSection (hs : s ∈ effect.sections) (hfor : s.isFor requested = true) :
    ∃ best, effect.bestSection requested = some best := by
  apply Option.ne_none_iff_exists'.mp
  intro hnone
  have hnot := bestSection_eq_none_iff.mp hnone s hs
  simp [hfor] at hnot

/-- A key between that of the best section and the request leaves fewer sections to choose from, and
the best one among them. -/
theorem bestSection_between {key : Text} (h : effect.bestSection requested = some s)
    (hlow : Text.lower s.key <+: Text.lower key)
    (hhigh : Text.lower key <+: Text.lower requested) : effect.bestSection key = some s := by
  obtain ⟨hs, -, hlongest, hfirst⟩ := bestSection_eq_some_iff.mp h
  have hwider : ∀ t : Section, t.isFor key = true → t.isFor requested = true := by
    intro t ht
    rw [Section.isFor_iff] at ht ⊢
    exact ht.trans hhigh
  apply bestSection_eq_some_iff.mpr
  refine ⟨hs, Section.isFor_iff.mpr hlow, ?_, ?_⟩
  · intro t ht hfor
    exact hlongest t ht (hwider t hfor)
  · intro t ht hfor
    exact hfirst t ht (hwider t hfor)

/-- The section that best matches a key depends on the sections of the effect only. -/
theorem bestSection_congr {other : Effect} (h : effect.sections = other.sections) (key : Text) :
    effect.bestSection key = other.bestSection key := by
  unfold bestSection
  rw [h]

/-! ## Effects with the same keys -/

section

variable {R : Section → Section → Prop} (hkey : ∀ {a b}, R a b → b.key = a.key)

include hkey

/-- Searches through sections that are related one by one, and so have keys of the same lengths,
come from related candidates to related ones. -/
theorem foldl_better_rel {sections others : List Section} (h : List.Forall₂ R sections others)
    {found other : Option Section} (hfound : Option.Rel R found other) :
    Option.Rel R (sections.foldl Section.better found) (others.foldl Section.better other) := by
  induction h generalizing found other with
  | nil => exact hfound
  | @cons a b _ _ hab _ ih =>
    apply ih
    cases hfound with
    | none => exact .some hab
    | some hbest =>
      dsimp only [Section.better]
      rw [hkey hab, hkey hbest]
      split
      · exact .some hab
      · exact .some hbest

/-- The best sections of effects whose sections are related one by one are related. -/
theorem bestSection_rel {other : Effect} (h : List.Forall₂ R effect.sections other.sections)
    (requested : Text) :
    Option.Rel R (effect.bestSection requested) (other.bestSection requested) := by
  unfold bestSection
  generalize effect.sections = sections at h ⊢
  generalize other.sections = others at h ⊢
  have hfilter : List.Forall₂ R (sections.filter (·.isFor requested))
      (others.filter (·.isFor requested)) := by
    induction h with
    | nil => exact .nil
    | @cons a b _ _ hab _ ih =>
      have hfor : b.isFor requested = a.isFor requested := by
        unfold Section.isFor
        rw [hkey hab]
      rw [List.filter_cons, List.filter_cons, hfor]
      split
      · exact .cons hab ih
      · exact ih
  exact foldl_better_rel hkey hfilter .none

end

end Effect

end ShaderCompose
