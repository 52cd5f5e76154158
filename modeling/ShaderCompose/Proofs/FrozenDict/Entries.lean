import Mathlib.Data.List.Perm.Subperm
import ShaderCompose.FrozenDict
import ShaderCompose.Proofs.Lists

/-!
# Entries under texts

Pairs are stored one after the other.  A key that is new goes to the end, and one that is there
keeps its place and gets the new value, so the keys stand as they came up first
(`map_fst_entriesOf`), each with the value that was given last (`valueAt?_entriesOf`).  Dictionaries
with such entries are equal if each key has equal values in both or none at all (`equal_iff`); where
the keys stand does not matter.
-/

set_option autoImplicit false

namespace ShaderCompose

/-- Two values that are equal as items of a collection. -/
def Value.EqualItems (a b : Value) : Prop := Value.equalItem a b = .ok true

namespace FrozenDict

/-- Pairs whose keys are texts. -/
def keyed (pairs : List (Text × Value)) : List (Value × Value) :=
  pairs.map fun pair => (.text pair.1, pair.2)

/-- The entries that such pairs become. -/
def entriesOf (pairs : List (Text × Value)) : List (Value × Value) :=
  pairs.foldl (fun entries pair => Value.storeEntry entries (.text pair.1) pair.2) []

/-- The dictionary that such pairs become. -/
def dictOf (pairs : List (Text × Value)) : FrozenDict := ⟨entriesOf pairs⟩

/-- Entries under texts, one for each. -/
structure HasKeys (entries : List (Value × Value)) (keys : List Text) : Prop where
  map_fst : entries.map Prod.fst = keys.map .text
  distinct : keys.Nodup

/-! ## One entry -/

/-- Only a text is the same key as a text. -/
theorem sameKey_text_iff (v : Value) (t : Text) :
    Value.sameKey v (.text t) = true ↔ v = .text t := by
  cases v <;>
    simp [Value.sameKey, Value.equalNumbers, Value.parts?, Value.magnitude?,
      Value.isUndefinedNumber]

variable {entries others : List (Value × Value)} {key other : Text} {first item old : Value}

/-- The entry at the front is found under its key. -/
theorem valueAt?_cons_self :
    Value.valueAt? (.text key) ((.text key, item) :: entries) = some item := by
  rw [Value.valueAt?, if_pos ((sameKey_text_iff _ key).mpr rfl)]

/-- An entry with another key at the front does not matter to what is found. -/
theorem valueAt?_cons_of_ne (h : first ≠ .text key) :
    Value.valueAt? (.text key) ((first, item) :: entries) =
      Value.valueAt? (.text key) entries := by
  rw [Value.valueAt?, if_neg (mt (sameKey_text_iff first key).mp h)]

/-- A value that is stored under the key at the front takes the place of the value there. -/
theorem storeEntry_cons_self :
    Value.storeEntry ((.text key, old) :: entries) (.text key) item =
      (.text key, item) :: entries := by
  rw [Value.storeEntry, if_pos ((sameKey_text_iff _ key).mpr rfl)]

/-- A value that is stored under another key leaves the entry at the front alone. -/
theorem storeEntry_cons_of_ne (h : first ≠ .text key) :
    Value.storeEntry ((first, old) :: entries) (.text key) item =
      (first, old) :: Value.storeEntry entries (.text key) item := by
  rw [Value.storeEntry, if_neg (mt (sameKey_text_iff first key).mp h)]

/-- A key that is there keeps all keys in place. -/
theorem map_fst_storeEntry_of_mem (h : .text key ∈ entries.map Prod.fst) (item : Value) :
    (Value.storeEntry entries (.text key) item).map Prod.fst = entries.map Prod.fst := by
  induction entries with
  | nil => simp at h
  | cons entry entries ih =>
    obtain ⟨first, old⟩ := entry
    by_cases hsame : first = .text key
    · subst hsame
      rw [storeEntry_cons_self]
      rfl
    · have hrest : .text key ∈ entries.map Prod.fst :=
        (List.mem_cons.mp h).resolve_left fun heq => hsame heq.symm
      rw [storeEntry_cons_of_ne hsame, List.map_cons, ih hrest, List.map_cons]

/-- A new key goes to the end. -/
theorem map_fst_storeEntry_of_notMem (h : .text key ∉ entries.map Prod.fst) (item : Value) :
    (Value.storeEntry entries (.text key) item).map Prod.fst =
      entries.map Prod.fst ++ [.text key] := by
  induction entries with
  | nil => rfl
  | cons entry entries ih =>
    obtain ⟨first, old⟩ := entry
    rw [List.map_cons, List.mem_cons, not_or] at h
    have hne : first ≠ .text key := fun heq => h.1 heq.symm
    rw [storeEntry_cons_of_ne hne, List.map_cons, ih h.2, List.map_cons, List.cons_append]

/-- The key has the new value, and the others have what they had. -/
theorem valueAt?_storeEntry (entries : List (Value × Value)) (key other : Text) (item : Value) :
    Value.valueAt? (.text other) (Value.storeEntry entries (.text key) item) =
      if other = key then some item else Value.valueAt? (.text other) entries := by
  induction entries with
  | nil =>
    rw [Value.storeEntry]
    split
    · rename_i h
      rw [h, valueAt?_cons_self]
    · rename_i h
      rw [valueAt?_cons_of_ne fun heq => h (Value.text.inj heq).symm]
  | cons entry entries ih =>
    obtain ⟨first, old⟩ := entry
    by_cases hfirst : first = .text key
    · subst hfirst
      rw [storeEntry_cons_self]
      split
      · rename_i h
        rw [h, valueAt?_cons_self]
      · rename_i h
        have hne : Value.text key ≠ .text other := fun heq => h (Value.text.inj heq).symm
        rw [valueAt?_cons_of_ne hne, valueAt?_cons_of_ne hne]
    · rw [storeEntry_cons_of_ne hfirst]
      by_cases hother : first = .text other
      · subst hother
        have hne : other ≠ key := fun heq => hfirst (heq ▸ rfl)
        rw [valueAt?_cons_self, valueAt?_cons_self, if_neg hne]
      · rw [valueAt?_cons_of_ne hother, valueAt?_cons_of_ne hother, ih]

/-- What is found under a key is the value of an entry. -/
theorem mem_of_valueAt? (h : Value.valueAt? (.text key) entries = some item) :
    (.text key, item) ∈ entries := by
  induction entries with
  | nil => simp [Value.valueAt?] at h
  | cons entry entries ih =>
    obtain ⟨first, old⟩ := entry
    by_cases hfirst : first = .text key
    · subst hfirst
      rw [valueAt?_cons_self, Option.some.injEq] at h
      rw [h]
      exact List.mem_cons_self
    · rw [valueAt?_cons_of_ne hfirst] at h
      exact List.mem_cons_of_mem _ (ih h)

/-- The value of an entry is found if no two entries have the same key. -/
theorem valueAt?_of_mem (hdistinct : (entries.map Prod.fst).Nodup)
    (h : (.text key, item) ∈ entries) : Value.valueAt? (.text key) entries = some item := by
  induction entries with
  | nil => simp at h
  | cons entry entries ih =>
    rw [List.map_cons, List.nodup_cons] at hdistinct
    rcases List.mem_cons.mp h with rfl | h
    · exact valueAt?_cons_self
    · have hne : entry.1 ≠ .text key := fun heq =>
        hdistinct.1 (heq ▸ List.mem_map_of_mem (f := Prod.fst) h)
      rw [valueAt?_cons_of_ne hne, ih hdistinct.2 h]

/-- Something is found under a key if an entry has it. -/
theorem isSome_valueAt?_iff :
    (Value.valueAt? (.text key) entries).isSome ↔ .text key ∈ entries.map Prod.fst := by
  induction entries with
  | nil => simp [Value.valueAt?]
  | cons entry entries ih =>
    obtain ⟨first, old⟩ := entry
    by_cases hfirst : first = .text key
    · subst hfirst
      simp [valueAt?_cons_self]
    · have hne : Value.text key ≠ first := fun heq => hfirst heq.symm
      rw [valueAt?_cons_of_ne hfirst, ih, List.map_cons, List.mem_cons, or_iff_right hne]

/-! ## All pairs -/

/-- Texts can be keys, so pairs under texts are stored one after the other. -/
theorem collect_keyed (found : List (Value × Value)) (pairs : List (Text × Value)) :
    collect found (keyed pairs) =
      .ok (pairs.foldl (fun entries pair => Value.storeEntry entries (.text pair.1) pair.2)
        found) := by
  induction pairs generalizing found with
  | nil => rfl
  | cons pair pairs ih => exact ih _

/-- Pairs are stored in order, so the last one is stored into the entries of those in front of
it. -/
theorem entriesOf_snoc (pairs : List (Text × Value)) (pair : Text × Value) :
    entriesOf (pairs ++ [pair]) = Value.storeEntry (entriesOf pairs) (.text pair.1) pair.2 := by
  rw [entriesOf, List.foldl_append]
  rfl

/-- Keys stand as they came up first. -/
theorem map_fst_entriesOf (pairs : List (Text × Value)) :
    (entriesOf pairs).map Prod.fst = (pairs.map Prod.fst).eraseDups.map .text := by
  induction pairs using List.reverseRecOn with
  | nil => rfl
  | append_singleton pairs pair ih =>
    have hmem : (.text pair.1 ∈ (entriesOf pairs).map Prod.fst) ↔ pair.1 ∈ pairs.map Prod.fst := by
      rw [ih, List.mem_map_of_injective fun _ _ => Value.text.inj, List.mem_eraseDups]
    rw [entriesOf_snoc, List.map_append, List.map_singleton]
    by_cases h : pair.1 ∈ pairs.map Prod.fst
    · rw [map_fst_storeEntry_of_mem (hmem.mpr h), eraseDups_snoc_of_mem h, ih]
    · rw [map_fst_storeEntry_of_notMem (mt hmem.mp h), eraseDups_snoc_of_notMem h, ih,
        List.map_append, List.map_singleton]

/-- The entries that pairs become have the keys of the pairs, each once and in the order in which
they came up first. -/
theorem hasKeys_dictOf (pairs : List (Text × Value)) :
    HasKeys (dictOf pairs).entries (pairs.map Prod.fst).eraseDups where
  map_fst := map_fst_entriesOf pairs
  distinct := nodup_eraseDups _

/-- Each key has the value that was given last. -/
theorem valueAt?_entriesOf (pairs : List (Text × Value)) (key : Text) :
    Value.valueAt? (.text key) (entriesOf pairs) = pairs.reverse.lookup key := by
  induction pairs using List.reverseRecOn with
  | nil => rfl
  | append_singleton pairs pair ih =>
    rw [entriesOf_snoc, valueAt?_storeEntry, ih, List.reverse_append, List.reverse_singleton,
      List.singleton_append, List.lookup_cons]
    by_cases h : key = pair.1
    · rw [if_pos h, beq_iff_eq.mpr h]
    · rw [if_neg h, beq_false_of_ne h]

/-! ## Equal dictionaries -/

/-- Entries are within others exactly if the first has an equal value there under its key, and the
rest are within them. -/
theorem entriesWithin_cons_iff {entry : Value × Value} :
    Value.entriesWithin (entry :: entries) others = .ok true ↔
      (∃ found, Value.valueAt? entry.1 others = some found ∧ entry.2.EqualItems found) ∧
        Value.entriesWithin entries others = .ok true := by
  obtain ⟨key, item⟩ := entry
  rw [Value.entriesWithin]
  cases hfound : Value.valueAt? key others with
  | none => simp
  | some found =>
    simp only [Option.some.injEq, exists_eq_left', Value.EqualItems, Value.equalItem,
      Value.equalItems]
    split
    · simp
    · cases hequal : Value.equal item found with
      | error g => simp
      | ok same => cases same <;> simp

/-- Entries are within others if each has an equal one under its key. -/
theorem entriesWithin_iff :
    Value.entriesWithin entries others = .ok true ↔
      ∀ entry ∈ entries, ∃ found, Value.valueAt? entry.1 others = some found ∧
        entry.2.EqualItems found := by
  induction entries with
  | nil => simp [Value.entriesWithin]
  | cons entry entries ih => rw [entriesWithin_cons_iff, ih, List.forall_mem_cons]

/-- Dictionaries are equal if they have as many entries, each of which has an equal one. -/
theorem equal_eq_true_iff (d e : FrozenDict) :
    d.equal e = true ↔ d.entries.length = e.entries.length ∧
      Value.entriesWithin d.entries e.entries = .ok true := by
  have houtcome : Value.equal (.dict d.entries) (.dict e.entries) =
      if d.entries.length == e.entries.length then Value.entriesWithin d.entries e.entries
      else .ok false := by
    rw [Value.equal]
  unfold FrozenDict.equal
  rw [houtcome]
  by_cases h : d.entries.length = e.entries.length
  · simp only [h, beq_self_eq_true, if_true, true_and]
    cases Value.entriesWithin d.entries e.entries <;> simp
  · simp [h]

/-- Values are found under the keys of the entries and under no others. -/
theorem HasKeys.isSome_valueAt?_iff {keys : List Text} (h : HasKeys entries keys) (key : Text) :
    (Value.valueAt? (.text key) entries).isSome ↔ key ∈ keys := by
  rw [FrozenDict.isSome_valueAt?_iff, h.map_fst,
    List.mem_map_of_injective fun _ _ => Value.text.inj]

/-- There are as many entries as keys. -/
theorem HasKeys.length_eq {keys : List Text} (h : HasKeys entries keys) :
    entries.length = keys.length := by
  simpa using congrArg List.length h.map_fst

/-- The value of an entry is found under its key, which is a text. -/
theorem HasKeys.valueAt?_of_mem {keys : List Text} (h : HasKeys entries keys)
    {entry : Value × Value} (hentry : entry ∈ entries) :
    ∃ key, entry.1 = .text key ∧ Value.valueAt? (.text key) entries = some entry.2 := by
  obtain ⟨first, item⟩ := entry
  have hfirst : first ∈ keys.map Value.text :=
    h.map_fst ▸ List.mem_map_of_mem (f := Prod.fst) hentry
  obtain ⟨key, -, rfl⟩ := List.mem_map.mp hfirst
  have hdistinct : (entries.map Prod.fst).Nodup :=
    h.map_fst ▸ h.distinct.map fun _ _ => Value.text.inj
  exact ⟨key, rfl, FrozenDict.valueAt?_of_mem hdistinct hentry⟩

/-- Entries with something under the same keys have the same keys, in some order. -/
theorem HasKeys.perm {keys keys' : List Text} (h : HasKeys entries keys)
    (h' : HasKeys others keys') {r : Value → Value → Prop}
    (hrel : ∀ key : Text, Option.Rel r (Value.valueAt? (.text key) entries)
      (Value.valueAt? (.text key) others)) : keys.Perm keys' := by
  refine (List.perm_ext_iff_of_nodup h.distinct h'.distinct).mpr fun key => ?_
  rw [← h.isSome_valueAt?_iff, ← h'.isSome_valueAt?_iff, isSome_eq_of_rel (hrel key)]

/-- Dictionaries are equal if each key has equal values in both, or none at all. -/
theorem equal_iff {d e : FrozenDict} {keys keys' : List Text} (hd : HasKeys d.entries keys)
    (he : HasKeys e.entries keys') :
    d.equal e = true ↔ ∀ key : Text, Option.Rel Value.EqualItems
      (Value.valueAt? (.text key) d.entries) (Value.valueAt? (.text key) e.entries) := by
  rw [equal_eq_true_iff, hd.length_eq, he.length_eq, entriesWithin_iff]
  constructor
  · rintro ⟨hlength, hwithin⟩ key
    -- the keys of the one are keys of the other; there are as many, so they are the same
    have hsubset : keys ⊆ keys' := by
      intro other hother
      obtain ⟨item, hitem⟩ :=
        Option.isSome_iff_exists.mp ((hd.isSome_valueAt?_iff other).mpr hother)
      obtain ⟨found, hfound, -⟩ := hwithin _ (mem_of_valueAt? hitem)
      exact (he.isSome_valueAt?_iff other).mp (Option.isSome_of_eq_some hfound)
    have hperm : keys.Perm keys' :=
      (hd.distinct.subperm hsubset).perm_of_length_le (Nat.le_of_eq hlength.symm)
    cases hitem : Value.valueAt? (.text key) d.entries with
    | some item =>
      obtain ⟨found, hfound, hequal⟩ := hwithin _ (mem_of_valueAt? hitem)
      rw [hfound]
      exact .some hequal
    | none =>
      have hnone : ¬(Value.valueAt? (.text key) e.entries).isSome := by
        rw [he.isSome_valueAt?_iff, ← hperm.mem_iff, ← hd.isSome_valueAt?_iff, hitem]
        simp
      rw [Option.not_isSome_iff_eq_none.mp hnone]
      exact .none
  · intro hrel
    refine ⟨(hd.perm he hrel).length_eq, ?_⟩
    intro entry hentry
    obtain ⟨key, hkey, hitem⟩ := hd.valueAt?_of_mem hentry
    have hfound := hrel key
    rw [hitem] at hfound
    rw [hkey]
    exact exists_of_rel_some hfound

end FrozenDict

end ShaderCompose
