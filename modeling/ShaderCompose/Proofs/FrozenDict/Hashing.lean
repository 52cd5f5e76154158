import ShaderCompose.Proofs.FrozenDict.HashCodes
import ShaderCompose.Proofs.FrozenDict.Sorting
import ShaderCompose.Proofs.Lists

/-!
# Hashes of equal dictionaries

A dictionary is hashed by the codes of its keys, put in order, each with the code of its value.  So
neither the order in which the keys came up nor the values that were overwritten matter, and equal
values have equal codes: dictionaries that are equal have the same hash, by any codes
(`equal_hash_alike`) and by the hash codes in particular (`sameHash_of_equal`).
-/

set_option autoImplicit false

namespace ShaderCompose.FrozenDict

variable {Code : Type} {codeOf? : Value → Option Code}

/-- Two values that have one code. -/
def SameCode (codeOf? : Value → Option Code) (item other : Value) : Prop :=
  ∃ code, codeOf? item = some code ∧ codeOf? other = some code

/-- A key that has a code, with values that have one code in two lists of entries. -/
structure CodedAlike (codeOf? : Value → Option Code) (entries others : List (Value × Value))
    (key : Value) : Prop where
  key_isSome : (codeOf? key).isSome
  values : ∃ item other, Value.valueAt? key entries = some item ∧
    Value.valueAt? key others = some other ∧ SameCode codeOf? item other

/-- Entries that have the same codes under some keys give the same codes for these keys. -/
theorem exists_codes {entries others : List (Value × Value)} {keys : List Value}
    (h : ∀ key ∈ keys, CodedAlike codeOf? entries others key) :
    ∃ found, codes codeOf? entries keys = .ok found ∧ codes codeOf? others keys = .ok found := by
  induction keys with
  | nil => exact ⟨[], rfl, rfl⟩
  | cons key keys ih =>
    obtain ⟨hkey, item, other, hitem, hother, code, hcode, hcode'⟩ := h key List.mem_cons_self
    obtain ⟨keyCode, hkey⟩ := Option.isSome_iff_exists.mp hkey
    obtain ⟨found, hfound, hfound'⟩ := ih fun k hk => h k (List.mem_cons_of_mem _ hk)
    refine ⟨keyCode :: code :: found, ?_, ?_⟩
    · simp only [codes, hitem, Option.getD_some, hkey, hcode, hfound, Except.map]
    · simp only [codes, hother, Option.getD_some, hkey, hcode', hfound', Except.map]

/-- Dictionaries with the same keys, whose values have the same codes, are hashed by the same. -/
theorem exists_fingerprintBy (hcodes : LawfulCodes codeOf?) {d e : FrozenDict}
    {keys keys' : List Text} (hd : HasKeys d.entries keys) (he : HasKeys e.entries keys')
    (h : ∀ key, Option.Rel (SameCode codeOf?) (Value.valueAt? (.text key) d.entries)
      (Value.valueAt? (.text key) e.entries)) :
    ∃ found, d.fingerprintBy codeOf? = .ok found ∧ e.fingerprintBy codeOf? = .ok found := by
  obtain ⟨sorted, hsort, hperm, -⟩ := sortKeys_texts keys
  have hsort' : sortKeys (keys'.map .text) = .ok (sorted.map .text) := by
    rw [← sortKeys_of_perm (hd.perm he h), hsort]
  have halike : ∀ key ∈ sorted.map Value.text, CodedAlike codeOf? d.entries e.entries key := by
    intro value hvalue
    obtain ⟨key, hkey, rfl⟩ := List.mem_map.mp hvalue
    obtain ⟨item, hitem⟩ := Option.isSome_iff_exists.mp
      ((hd.isSome_valueAt?_iff key).mpr (hperm.mem_iff.mp hkey))
    have hrel := h key
    rw [hitem] at hrel
    obtain ⟨other, hother, hsame⟩ := exists_of_rel_some hrel
    exact ⟨hcodes.text key, item, other, hitem, hother, hsame⟩
  obtain ⟨found, hfound, hfound'⟩ := exists_codes halike
  refine ⟨found, ?_, ?_⟩
  · rw [fingerprintBy, hd.map_fst, hsort]
    exact hfound
  · rw [fingerprintBy, he.map_fst, hsort']
    exact hfound'

/-- The value of a key is one that was given, so it has a code. -/
theorem exists_code {pairs : List (Text × Value)}
    (hpairs : ∀ pair ∈ pairs, (codeOf? pair.2).isSome) {key : Text} {item : Value}
    (h : Value.valueAt? (.text key) (dictOf pairs).entries = some item) :
    ∃ code, codeOf? item = some code := by
  have hlookup : pairs.reverse.lookup key = some item := by
    rw [← valueAt?_entriesOf]
    exact h
  exact Option.isSome_iff_exists.mp
    (hpairs (key, item) (List.mem_reverse.mp (mem_of_lookup hlookup)))

/-- Pairs under texts whose values have codes become a dictionary. -/
theorem ofPairsBy_keyed (hcodes : LawfulCodes codeOf?) {pairs : List (Text × Value)}
    (hpairs : ∀ pair ∈ pairs, (codeOf? pair.2).isSome) :
    ofPairsBy codeOf? (keyed pairs) = .ok (dictOf pairs) := by
  have hkeys := hasKeys_dictOf pairs
  obtain ⟨found, hfound, -⟩ := exists_fingerprintBy hcodes hkeys hkeys fun key => by
    cases hitem : Value.valueAt? (.text key) (dictOf pairs).entries with
    | none => exact .none
    | some item =>
      obtain ⟨code, hcode⟩ := exists_code hpairs hitem
      exact .some ⟨code, hcode, hcode⟩
  have hcollect : collect [] (keyed pairs) = .ok (dictOf pairs).entries := collect_keyed [] pairs
  unfold ofPairsBy
  rw [hcollect]
  simp only [bind, Except.bind, hfound, pure, Except.pure]

/-- Equal dictionaries are hashed by the same. -/
theorem exists_fingerprintBy_of_equal (hcodes : LawfulCodes codeOf?)
    {pairs others : List (Text × Value)} (hpairs : ∀ pair ∈ pairs, (codeOf? pair.2).isSome)
    (hothers : ∀ pair ∈ others, (codeOf? pair.2).isSome)
    (h : (dictOf pairs).equal (dictOf others) = true) :
    ∃ found, (dictOf pairs).fingerprintBy codeOf? = .ok found ∧
      (dictOf others).fingerprintBy codeOf? = .ok found := by
  have hkeys := hasKeys_dictOf pairs
  have hkeys' := hasKeys_dictOf others
  refine exists_fingerprintBy hcodes hkeys hkeys' fun key => ?_
  refine rel_of_rel ((equal_iff hkeys hkeys').mp h key) fun item other hitem hother hsame => ?_
  obtain ⟨code, hcode⟩ := exists_code hpairs hitem
  obtain ⟨code', hcode'⟩ := exists_code hothers hother
  obtain rfl := hcodes.equal hsame hcode hcode'
  exact ⟨code, hcode, hcode'⟩

/-- Equal dictionaries have the same hash. -/
theorem sameHash_of_equal {pairs others : List (Text × Value)}
    (hpairs : ∀ pair ∈ pairs, (HashCode.of? pair.2).isSome)
    (hothers : ∀ pair ∈ others, (HashCode.of? pair.2).isSome)
    (h : (dictOf pairs).equal (dictOf others) = true) :
    (dictOf pairs).sameHash (dictOf others) = true := by
  obtain ⟨found, hfound, hfound'⟩ :=
    exists_fingerprintBy_of_equal HashCode.lawful hpairs hothers h
  unfold sameHash fingerprint
  rw [hfound, hfound']
  exact beq_self_eq_true found

/-- The hash codes are codes that dictionaries can be hashed by.  By any such codes, pairs under
texts whose values have one become a dictionary.  Its keys stand as they came up first, each with
the value that was given for it last.  Two such dictionaries are equal if and only if each key was
at last given equal values in both or does not come up in either, and equal ones are hashed by the
same. -/
theorem equal_hash_alike :
    LawfulCodes HashCode.of? ∧
    ∀ {Code : Type} (codeOf? : Value → Option Code), LawfulCodes codeOf? →
      ∀ pairs others : List (Text × Value),
        (∀ pair ∈ pairs, (codeOf? pair.2).isSome) → (∀ pair ∈ others, (codeOf? pair.2).isSome) →
        ∃ d e, ofPairsBy codeOf? (keyed pairs) = .ok d ∧ ofPairsBy codeOf? (keyed others) = .ok e ∧
          d.entries.map Prod.fst = (pairs.map Prod.fst).eraseDups.map .text ∧
          (∀ key, Value.valueAt? (.text key) d.entries = pairs.reverse.lookup key) ∧
          (d.equal e = true ↔ ∀ key, Option.Rel Value.EqualItems
            (pairs.reverse.lookup key) (others.reverse.lookup key)) ∧
          (d.equal e = true → ∃ found,
            d.fingerprintBy codeOf? = .ok found ∧ e.fingerprintBy codeOf? = .ok found) := by
  refine ⟨HashCode.lawful, ?_⟩
  intro Code codeOf? hcodes pairs others hpairs hothers
  refine ⟨dictOf pairs, dictOf others, ofPairsBy_keyed hcodes hpairs,
    ofPairsBy_keyed hcodes hothers, map_fst_entriesOf pairs, valueAt?_entriesOf pairs, ?_, ?_⟩
  · rw [equal_iff (hasKeys_dictOf pairs) (hasKeys_dictOf others)]
    simp only [dictOf, valueAt?_entriesOf]
  · exact exists_fingerprintBy_of_equal hcodes hpairs hothers

/-- Settings of a lamp, one of which is overwritten. -/
def lampPairs : List (Text × Value) :=
  [("glow".toList, .float 0.5), ("lit".toList, .bool true), ("glow".toList, .int 2),
    ("name".toList, .text "é".toList)]

/-- The same settings in another order, with numbers of other kinds. -/
def lanternPairs : List (Text × Value) :=
  [("name".toList, .text "é".toList), ("lit".toList, .int 1), ("glow".toList, .float 2.0)]

/-- The key that is overwritten keeps its place, and a truth value and an integer are hashed as the
integer and the double that they are equal to. -/
theorem equal_hash_alike_lamp :
    ∃ d e found, ofPairs (keyed lampPairs) = .ok d ∧ ofPairs (keyed lanternPairs) = .ok e ∧
      d.entries.map Prod.fst = [.text "glow".toList, .text "lit".toList, .text "name".toList] ∧
      Value.valueAt? (.text "glow".toList) d.entries = some (.int 2) ∧
      d.equal e = true ∧ d.fingerprint = .ok found ∧ e.fingerprint = .ok found := by
  obtain ⟨hlawful, hall⟩ := equal_hash_alike
  have hpairs : ∀ pair ∈ lampPairs, (HashCode.of? pair.2).isSome := by decide +kernel
  have hothers : ∀ pair ∈ lanternPairs, (HashCode.of? pair.2).isSome := by decide +kernel
  obtain ⟨d, e, hd, he, hkeys, hvalues, -, hhash⟩ :=
    hall HashCode.of? hlawful lampPairs lanternPairs hpairs hothers
  obtain rfl := Except.ok.inj ((ofPairsBy_keyed hlawful hpairs).symm.trans hd)
  obtain rfl := Except.ok.inj ((ofPairsBy_keyed hlawful hothers).symm.trans he)
  have hequal : (dictOf lampPairs).equal (dictOf lanternPairs) = true := by decide +kernel
  obtain ⟨found, hfound, hfound'⟩ := hhash hequal
  exact ⟨_, _, found, hd, he, hkeys, hvalues _, hequal, hfound, hfound'⟩

end ShaderCompose.FrozenDict
