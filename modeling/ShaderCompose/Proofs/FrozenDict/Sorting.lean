import Mathlib.Data.Char
import Mathlib.Data.List.InsertIdx
import Mathlib.Data.List.Lex
import Mathlib.Data.List.Pairwise
import ShaderCompose.FrozenDict
import ShaderCompose.Proofs.Lists

/-!
# Keys in order

Texts are ordered by code points, and keys that are texts can all be compared.  Sorting takes the
run of keys that are in order from the start on, and puts each further key in at the place that
halving finds for it.  Whatever comes first, the result is the one list of these keys that is in
order (`sortKeys_of_perm`).
-/

set_option autoImplicit false

namespace ShaderCompose

/-- The order of texts is that of lists of code points. -/
theorem Text.before_iff_lt (s t : Text) : Text.before s t = true ↔ s < t := by
  induction s generalizing t with
  | nil => cases t <;> simp [Text.before]
  | cons c s ih =>
    cases t with
    | nil => simp [Text.before]
    | cons d t =>
      rw [Text.before, List.cons_lt_cons_iff]
      by_cases h : c = d
      · subst h
        rw [if_pos rfl, ih]
        simp
      · rw [if_neg h, decide_eq_true_eq]
        constructor
        · exact Or.inl
        · rintro (hlt | ⟨heq, -⟩)
          · exact hlt
          · exact absurd heq h

namespace FrozenDict

/-- Keys that are texts can be compared. -/
theorem precedes_text (s t : Text) : precedes (.text s) (.text t) = .ok (decide (s < t)) := by
  have horder : (Value.textOrder s t = .lt) ↔ s < t := by
    unfold Value.textOrder
    rw [← Text.before_iff_lt]
    by_cases h : s = t
    · subst h
      simp [Text.before_iff_lt]
    · by_cases hbefore : Text.before s t <;> simp [h, hbefore]
  unfold precedes
  rw [Value.order]
  by_cases h : s < t
  · simp [h, horder.mpr h]
  · have hne : Value.textOrder s t ≠ .lt := fun hlt => h (horder.mp hlt)
    simp [h, hne]

/-! ## The first run -/

/-- What is cut off goes on in one direction, and nothing is lost. -/
theorem takeRun_texts (down : Bool) (last : Text) (keys : List Text) :
    ∃ run others : List Text, takeRun down (.text last) (keys.map .text) =
        .ok (run.map .text, others.map .text) ∧
      keys = run ++ others ∧ (last :: run).IsChain fun a b => decide (b < a) = down := by
  induction keys generalizing last with
  | nil => exact ⟨[], [], rfl, rfl, .singleton _⟩
  | cons key keys ih =>
    by_cases hgoes : decide (key < last) = down
    · obtain ⟨run, others, htake, rfl, hchain⟩ := ih key
      refine ⟨key :: run, others, ?_, rfl, .cons_cons hgoes hchain⟩
      rw [List.map_cons, takeRun, precedes_text, htake]
      simp [bind, Except.bind, pure, Except.pure, hgoes]
    · refine ⟨[], key :: keys, ?_, rfl, .singleton _⟩
      rw [List.map_cons, takeRun, precedes_text]
      simp [bind, Except.bind, pure, Except.pure, hgoes]

/-- The first run is put in order, and nothing is lost. -/
theorem firstRun_texts (keys : List Text) :
    ∃ run others : List Text, firstRun (keys.map .text) = .ok (run.map .text, others.map .text) ∧
      (run ++ others).Perm keys ∧ run.Pairwise (· ≤ ·) := by
  match keys with
  | [] => exact ⟨[], [], rfl, .refl _, .nil⟩
  | [key] => exact ⟨[key], [], rfl, .refl _, List.pairwise_singleton _ _⟩
  | first :: second :: keys =>
    obtain ⟨run, others, htake, rfl, hchain⟩ := takeRun_texts (decide (second < first)) second keys
    have hrun : firstRun ((first :: second :: (run ++ others)).map .text) =
        .ok (if second < first then ((first :: second :: run).map Value.text).reverse
          else (first :: second :: run).map .text, others.map .text) := by
      rw [List.map_cons, List.map_cons, firstRun, precedes_text]
      simp only [bind, Except.bind, pure, Except.pure, htake, decide_eq_true_eq, List.map_cons]
    by_cases hdown : second < first
    · refine ⟨(first :: second :: run).reverse, others, ?_, ?_, ?_⟩
      · rw [hrun, if_pos hdown, List.map_reverse]
      · exact (List.reverse_perm _).append_right others
      · have hfalls : (first :: second :: run).IsChain fun a b => b < a := by
          refine .cons_cons hdown ?_
          simpa [hdown] using hchain
        rw [List.pairwise_reverse]
        exact hfalls.pairwise.imp fun h => h.le
    · refine ⟨first :: second :: run, others, ?_, .refl _, ?_⟩
      · rw [hrun, if_neg hdown]
      · have hrises : (first :: second :: run).IsChain (· ≤ ·) := by
          refine .cons_cons (not_lt.mp hdown) ?_
          simpa [hdown] using hchain
        exact hrises.pairwise

/-! ## Putting in -/

/-- A stretch of places among keys that a text can be put in at: the keys in front of it do not come
behind the text, and those behind it do. -/
structure Bounds (key : Text) (keys : List Text) (low high : Nat) : Prop where
  le : low ≤ high
  fits : high ≤ keys.length
  front : ∀ other ∈ keys.take low, other ≤ key
  back : ∀ other ∈ keys.drop high, key < other

/-- If a key comes behind the text, so do those behind the key. -/
theorem Bounds.lower {key : Text} {keys : List Text} {low middle high : Nat}
    (h : Bounds key keys low high) (hkeys : keys.Pairwise (· ≤ ·)) (hlow : low ≤ middle)
    (hmiddle : middle < keys.length) (hless : key < keys[middle]) :
    Bounds key keys low middle where
  le := hlow
  fits := hmiddle.le
  front := h.front
  back := by
    intro other hother
    have hdrop := hkeys.drop (i := middle)
    rw [List.drop_eq_getElem_cons hmiddle] at hother hdrop
    rcases List.mem_cons.mp hother with rfl | hother
    · exact hless
    · exact hless.trans_le ((List.pairwise_cons.mp hdrop).1 other hother)

/-- If a key does not come behind the text, neither do those in front of the key. -/
theorem Bounds.raise {key : Text} {keys : List Text} {low middle high : Nat}
    (h : Bounds key keys low high) (hkeys : keys.Pairwise (· ≤ ·)) (hhigh : middle < high)
    (hmiddle : middle < keys.length) (hnot : keys[middle] ≤ key) :
    Bounds key keys (middle + 1) high where
  le := hhigh
  fits := h.fits
  front := by
    intro other hother
    have htake := hkeys.take (i := middle + 1)
    rw [List.take_succ_eq_append_getElem hmiddle] at hother htake
    rcases List.mem_append.mp hother with hother | hother
    · exact ((List.pairwise_append.mp htake).2.2 other hother _ List.mem_cons_self).trans hnot
    · rwa [List.mem_singleton.mp hother]
  back := h.back

/-- Halving a stretch ends at a single place. -/
theorem placeIn_texts {key : Text} {keys : List Text} (hkeys : keys.Pairwise (· ≤ ·))
    {fuel low high : Nat} (hfuel : high - low < fuel) (h : Bounds key keys low high) :
    ∃ place, placeIn (.text key) (keys.map .text) fuel low high = .ok place ∧
      Bounds key keys place place := by
  induction fuel generalizing low high with
  | zero => omega
  | succ fuel ih =>
    have hle := h.le
    have hfits := h.fits
    rw [placeIn]
    by_cases hlow : low < high
    · have hmiddle : low + (high - low) / 2 < keys.length := by omega
      have hfound : (keys.map Value.text)[low + (high - low) / 2]? =
          some (.text keys[low + (high - low) / 2]) := by
        rw [List.getElem?_map, List.getElem?_eq_getElem hmiddle, Option.map_some]
      rw [if_pos hlow]
      by_cases hless : key < keys[low + (high - low) / 2]
      · obtain ⟨place, hplace, hbounds⟩ :=
          ih (by omega) (h.lower hkeys (by omega) hmiddle hless)
        refine ⟨place, ?_, hbounds⟩
        simp only [hfound, precedes_text, bind, Except.bind, hless, decide_true, if_true, hplace]
      · obtain ⟨place, hplace, hbounds⟩ :=
          ih (by omega) (h.raise hkeys (by omega) hmiddle (not_lt.mp hless))
        refine ⟨place, ?_, hbounds⟩
        simp only [hfound, precedes_text, bind, Except.bind, hless, decide_false, hplace]
        rfl
    · have hsame : high = low := by omega
      rw [if_neg hlow]
      exact ⟨low, rfl, hsame ▸ h⟩

/-- If nothing is left of the stretch, then the text can be put in at its place and the keys stay in
order. -/
theorem Bounds.pairwise {key : Text} {keys : List Text} {place : Nat}
    (h : Bounds key keys place place) (hkeys : keys.Pairwise (· ≤ ·)) :
    (keys.insertIdx place key).Pairwise (· ≤ ·) := by
  rw [insertIdx_eq_take_drop h.fits, List.pairwise_append, List.pairwise_cons]
  refine ⟨hkeys.take, ⟨fun other hother => (h.back other hother).le, hkeys.drop⟩, ?_⟩
  intro a ha b hb
  have hak := h.front a ha
  rcases List.mem_cons.mp hb with rfl | hb
  · exact hak
  · exact hak.trans (h.back b hb).le

/-- Keys in order stay so when others are put in. -/
theorem insertAll_texts {keys : List Text} (hkeys : keys.Pairwise (· ≤ ·)) (others : List Text) :
    ∃ sorted : List Text, insertAll (keys.map .text) (others.map .text) = .ok (sorted.map .text) ∧
      sorted.Perm (keys ++ others) ∧ sorted.Pairwise (· ≤ ·) := by
  induction others generalizing keys with
  | nil => exact ⟨keys, rfl, by simp, hkeys⟩
  | cons key others ih =>
    have hstart : Bounds key keys 0 keys.length :=
      ⟨Nat.zero_le _, le_rfl, by simp, by simp⟩
    have hfuel : keys.length - 0 < keys.length + 1 := by omega
    obtain ⟨place, hplace, hbounds⟩ := placeIn_texts hkeys hfuel hstart
    obtain ⟨sorted, hinsert, hperm, hsorted⟩ := ih (hbounds.pairwise hkeys)
    refine ⟨sorted, ?_, ?_, hsorted⟩
    · rw [List.map_cons, insertAll, List.length_map, hplace]
      rw [List.map_insertIdx] at hinsert
      exact hinsert
    · have hput : (keys.insertIdx place key ++ others).Perm (key :: keys ++ others) :=
        (List.perm_insertIdx key keys hbounds.fits).append_right others
      exact hperm.trans (hput.trans List.perm_middle.symm)

/-! ## Sorting -/

/-- Texts are put in order. -/
theorem sortKeys_texts (keys : List Text) :
    ∃ sorted : List Text, sortKeys (keys.map .text) = .ok (sorted.map .text) ∧ sorted.Perm keys ∧
      sorted.Pairwise (· ≤ ·) := by
  obtain ⟨run, others, hfirst, hperm, hrun⟩ := firstRun_texts keys
  obtain ⟨sorted, hinsert, hperm', hsorted⟩ := insertAll_texts hrun others
  refine ⟨sorted, ?_, hperm'.trans hperm, hsorted⟩
  unfold sortKeys
  rw [hfirst]
  exact hinsert

/-- Sorting does not depend on what comes first. -/
theorem sortKeys_of_perm {keys others : List Text} (h : keys.Perm others) :
    sortKeys (keys.map .text) = sortKeys (others.map .text) := by
  obtain ⟨sorted, hsort, hperm, hsorted⟩ := sortKeys_texts keys
  obtain ⟨sorted', hsort', hperm', hsorted'⟩ := sortKeys_texts others
  have hsame : sorted = sorted' :=
    List.Perm.eq_of_pairwise (fun _ _ _ _ => le_antisymm) hsorted hsorted'
      (hperm.trans (h.trans hperm'.symm))
  rw [hsort, hsort', hsame]

end FrozenDict

end ShaderCompose
