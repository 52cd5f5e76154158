import Mathlib.Data.List.Induction
import Mathlib.Data.List.Nodup
import Mathlib.Data.List.TakeWhile

/-!
# Lists and results

What the theory needs about lists of any kind, whether they hold lines, files or records, about
values that may be missing, and about results that may be failures.
-/

set_option autoImplicit false

namespace ShaderCompose

variable {α β γ ε σ : Type}

/-! ## Entries of a list -/

/-- The start of a list that a condition takes keeps those entries up to which all entries meet the
condition. -/
theorem getElem?_takeWhile {p : α → Bool} {l : List α} {j : Nat} {a : α} :
    (l.takeWhile p)[j]? = some a ↔
      l[j]? = some a ∧ ∀ i ≤ j, ∀ b, l[i]? = some b → p b = true := by
  rw [List.takeWhile_eq_take_findIdx_not, List.getElem?_take]
  constructor
  · intro h
    obtain ⟨hlt, ha⟩ : j < l.findIdx (fun b => !p b) ∧ l[j]? = some a := by simpa using h
    refine ⟨ha, ?_⟩
    intro i hi b hb
    obtain ⟨hlength, rfl⟩ := List.getElem?_eq_some_iff.mp hb
    simpa using List.not_of_lt_findIdx (Nat.lt_of_le_of_lt hi hlt)
  · rintro ⟨ha, hall⟩
    have hlt : j < l.findIdx (fun b => !p b) := by
      apply List.lt_findIdx_of_not (List.getElem?_eq_some_iff.mp ha).1
      intro i hi
      simpa using hall i hi _ (List.getElem?_eq_getElem _)
    rw [if_pos hlt]
    exact ha

/-- The entry right behind the start of a list that a condition takes does not meet the
condition. -/
theorem of_getElem?_length_takeWhile {p : α → Bool} {l : List α} {a : α}
    (h : l[(l.takeWhile p).length]? = some a) : p a = false := by
  have hlength : (l.takeWhile p).length = l.findIdx (fun b => !p b) := by
    rw [List.takeWhile_eq_take_findIdx_not, List.length_take]
    exact Nat.min_eq_left List.findIdx_le_length
  rw [hlength] at h
  obtain ⟨hlt, rfl⟩ := List.getElem?_eq_some_iff.mp h
  have hfound := List.findIdx_getElem (w := hlt)
  simpa using hfound

/-- An entry added at the end has the next index, and all others keep theirs. -/
theorem getElem?_snoc (list : List α) (a : α) (i : Nat) :
    (list ++ [a])[i]? = if i = list.length then some a else list[i]? := by
  rw [List.getElem?_append]
  rcases Nat.lt_trichotomy i list.length with hlt | heq | hgt
  · rw [if_pos hlt, if_neg (Nat.ne_of_lt hlt)]
  · simp [heq]
  · have hpast : ([a] : List α)[i - list.length]? = none := by
      rw [List.getElem?_eq_none]
      simp only [List.length_cons, List.length_nil]
      omega
    rw [if_neg (Nat.not_lt.mpr (Nat.le_of_lt hgt)), if_neg (Nat.ne_of_gt hgt), hpast,
      List.getElem?_eq_none (Nat.le_of_lt hgt)]

/-- What is put in at a place stands between the entries in front of it and those behind it. -/
theorem insertIdx_eq_take_drop {a : α} {l : List α} {place : Nat} (h : place ≤ l.length) :
    l.insertIdx place a = l.take place ++ a :: l.drop place := by
  induction place generalizing l with
  | zero => rfl
  | succ place ih =>
    cases l with
    | nil => simp at h
    | cons first l =>
      rw [List.insertIdx_succ_cons, ih (Nat.le_of_succ_le_succ h)]
      rfl

/-- A list is shorter than one that has something in front of it. -/
theorem length_lt_append {t : List α} (ht : t ≠ []) (rest : List α) :
    rest.length < (t ++ rest).length := by
  have hlength : 0 < t.length := List.length_pos_iff.mpr ht
  rw [List.length_append]
  omega

/-- What is true of all entries in front, and of the first one behind them, is true of the first
entry of the whole list. -/
theorem forall_head?_append {P : α → Prop} {t u : List α} (ht : ∀ c ∈ t, P c)
    (hu : ∀ c ∈ u.head?, P c) : ∀ c ∈ (t ++ u).head?, P c := by
  cases t with
  | nil => exact hu
  | cons d t => simpa using ht d List.mem_cons_self

/-- What is of one kind is not in a list that has nothing of this kind. -/
theorem notMem_of_all {p : α → Bool} {l : List α} (hl : (l.all fun d => !p d) = true) {c : α}
    (hc : p c = true) : c ∉ l := by
  intro hmem
  have hnot := List.all_eq_true.mp hl c hmem
  rw [hc] at hnot
  contradiction

/-! ## Repetitions -/

section

variable [BEq α] [LawfulBEq α]

/-- A condition that holds of just one member of a list without duplicates is counted once. -/
theorem countP_eq_one {p : α → Bool} {l : List α} {a : α} (hnodup : l.Nodup) (ha : a ∈ l)
    (hp : p a = true) (hunique : ∀ b ∈ l, p b = true → b = a) : l.countP p = 1 := by
  have hsame : l.countP p = l.countP (· == a) := by
    apply List.countP_congr
    intro b hb
    rw [beq_iff_eq]
    constructor
    · exact hunique b hb
    · rintro rfl
      exact hp
  rw [hsame]
  exact List.count_eq_one_of_mem hnodup ha

/-- A repetition at the end is left out. -/
theorem eraseDups_snoc_of_mem {l : List α} {a : α} (h : a ∈ l) :
    (l ++ [a]).eraseDups = l.eraseDups := by
  rw [List.eraseDups_append]
  simp [List.removeAll, h]

/-- An entry at the end that does not repeat another one is kept there. -/
theorem eraseDups_snoc_of_notMem {l : List α} {a : α} (h : a ∉ l) :
    (l ++ [a]).eraseDups = l.eraseDups ++ [a] := by
  rw [List.eraseDups_append]
  simp [List.removeAll, h, List.eraseDups_cons]

/-- No entry comes up twice when repetitions are left out. -/
theorem nodup_eraseDups (l : List α) : l.eraseDups.Nodup := by
  induction l using List.reverseRecOn with
  | nil => exact List.nodup_nil
  | append_singleton l a ih =>
    by_cases h : a ∈ l
    · rw [eraseDups_snoc_of_mem h]
      exact ih
    · have hnew : a ∉ l.eraseDups := by rwa [List.mem_eraseDups]
      rw [eraseDups_snoc_of_notMem h, List.nodup_append_comm, List.singleton_append,
        List.nodup_cons]
      exact ⟨hnew, ih⟩

/-- An entry that stands in front of another one when repetitions are left out comes up in front of
it. -/
theorem exists_before_of_eraseDups {l front back : List α} {a b : α}
    (h : l.eraseDups = front ++ a :: back) (hb : b ∈ back) :
    ∃ before after, l = before ++ a :: after ∧ b ∉ before := by
  induction l using List.reverseRecOn generalizing back with
  | nil => simp at h
  | append_singleton l c ih =>
    by_cases hc : c ∈ l
    · rw [eraseDups_snoc_of_mem hc] at h
      obtain ⟨before, after, rfl, hbefore⟩ := ih h hb
      exact ⟨before, after ++ [c], by simp, hbefore⟩
    · rw [eraseDups_snoc_of_notMem hc] at h
      obtain ⟨rest, last, rfl⟩ : ∃ rest last, back = rest ++ [last] :=
        (List.eq_nil_or_concat' back).resolve_left (List.ne_nil_of_mem hb)
      rw [← List.cons_append, ← List.append_assoc] at h
      obtain ⟨hfront, hlast⟩ := List.append_inj' h rfl
      obtain rfl : c = last := List.singleton_inj.mp hlast
      rcases List.mem_append.mp hb with hb | hb
      · obtain ⟨before, after, rfl, hbefore⟩ := ih hfront hb
        exact ⟨before, after ++ [c], by simp, hbefore⟩
      · -- the new entry is behind all others
        obtain rfl : b = c := List.mem_singleton.mp hb
        have ha : a ∈ l := by
          rw [← List.mem_eraseDups, hfront]
          simp
        obtain ⟨before, after, rfl⟩ := List.append_of_mem ha
        refine ⟨before, after ++ [b], by simp, ?_⟩
        intro hbefore
        exact hc (by simp [hbefore])

/-! ## Entries under names -/

/-- What is looked up in a list is one of its entries. -/
theorem mem_of_lookup {entries : List (α × β)} {key : α} {value : β}
    (h : entries.lookup key = some value) : (key, value) ∈ entries := by
  obtain ⟨before, after, rfl, -⟩ := List.lookup_eq_some_iff.mp h
  simp

/-- Taking out the entries of one name does not matter to the others. -/
theorem lookup_filter_ne {name other : α} (h : name ≠ other) (entries : List (α × β)) :
    (entries.filter fun entry => entry.1 != other).lookup name = entries.lookup name := by
  induction entries with
  | nil => rfl
  | cons entry rest ih =>
    by_cases hother : entry.1 = other
    · have hname : (name == entry.1) = false := by simpa [hother] using h
      rw [List.filter_cons_of_neg (by simpa using hother), ih, List.lookup_cons, hname]
    · rw [List.filter_cons_of_pos (by simpa using hother), List.lookup_cons, List.lookup_cons, ih]

end

/-- Where all values are changed in one way, what is looked up is the changed value. -/
theorem lookup_map_snd [BEq α] (f : β → γ) (entries : List (α × β)) (name : α) :
    (entries.map fun entry => (entry.1, f entry.2)).lookup name =
      (entries.lookup name).map f := by
  induction entries with
  | nil => rfl
  | cons entry rest ih =>
    rw [List.map_cons, List.lookup_cons, List.lookup_cons, ih]
    cases name == entry.1 with
    | true => rfl
    | false => rfl

/-! ## Values that may be missing -/

section

variable {r : α → β → Prop} {x : Option α} {y : Option β}

/-- Of related values that may be missing, both are there or none is. -/
theorem isSome_eq_of_rel (h : Option.Rel r x y) : x.isSome = y.isSome := by
  cases h <;> rfl

/-- If a value is there, then so is the one that it is related to. -/
theorem exists_of_rel_some {a : α} (h : Option.Rel r (some a) y) : ∃ b, y = some b ∧ r a b := by
  cases h with
  | some hrel => exact ⟨_, rfl, hrel⟩

/-- Values that are related are related in another way if this follows for what is there. -/
theorem rel_of_rel {q : α → β → Prop} (h : Option.Rel r x y)
    (himp : ∀ a b, x = some a → y = some b → r a b → q a b) : Option.Rel q x y := by
  cases h with
  | some hrel => exact .some (himp _ _ rfl rfl hrel)
  | none => exact .none

end

/-! ## Results -/

/-- A result that is mapped to a success was one before. -/
theorem map_eq_ok {result : Except ε α} {f : α → β} {b : β} (h : result.map f = .ok b) :
    ∃ a, result = .ok a ∧ b = f a := by
  cases result with
  | error e => simp [Except.map] at h
  | ok a => exact ⟨a, rfl, (Except.ok.inj h).symm⟩

/-- A result that is mapped to a failure was that failure before. -/
theorem map_eq_error {result : Except ε α} {f : α → β} {e : ε} (h : result.map f = .error e) :
    result = .error e := by
  cases result with
  | error e' => exact congrArg Except.error (Except.error.inj h)
  | ok a => simp [Except.map] at h

/-- A result that passes a test is a success. -/
theorem exists_of_any (outcome : Except ε α × σ) (test : α → Bool)
    (h : outcome.1.toOption.any test = true) :
    ∃ value after, outcome = (.ok value, after) ∧ test value = true := by
  obtain ⟨result, after⟩ := outcome
  cases result with
  | error e => simp [Except.toOption] at h
  | ok value => exact ⟨value, after, rfl, h⟩

end ShaderCompose
