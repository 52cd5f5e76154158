import ShaderCompose.Proofs.Effect.Parsing
import ShaderCompose.Proofs.Text.LowerCase

/-!
# Which section a requested key selects

A requested key selects the first of the sections with a longest key among those whose key, in lower
case, starts the lower case of the request.  In a parsed effect these sections stand in the order in
which their keys are first defined in the file.  Three consequences follow from this description.
The selected section is also selected by its own key, and by every request between the two.  A
request that starts with the key of a section finds a section, unless the key ends in a sigma whose
form changes.  And the key of a section selects a section of the same lower case, unless the key
holds a capital whose lower case is longer than itself.
-/

set_option autoImplicit false

namespace ShaderCompose

/-! ## The order of definition -/

/-- A key that a separator of the text names in front of every separator that names the other
key. -/
def DefinedBefore (text key other : Text) : Prop :=
  ∃ number, (number, key) ∈ separatorsOf text ∧
    ∀ later, (later, other) ∈ separatorsOf text → number < later

section

variable {text identity : Text} {origin : Option SourceFile} {s t : Section}

/-- Two keys cannot each be defined before the other. -/
theorem DefinedBefore.asymm {key other : Text} (h : DefinedBefore text key other) :
    ¬ DefinedBefore text other key := by
  rintro ⟨first', hmem', hbefore'⟩
  obtain ⟨first, hmem, hbefore⟩ := h
  have hlt := hbefore first' hmem'
  have hlt' := hbefore' first hmem
  omega

/-- The key of the first separator behind some that do not name another key is defined before that
other key. -/
theorem definedBefore_of_split {key other : Text} {front back : List Text}
    (h : (separatorsOf text).map Prod.snd = front ++ key :: back) (hfront : other ∉ front)
    (hne : other ≠ key) : DefinedBefore text key other := by
  obtain ⟨before, rest, hsplit, rfl, hrest⟩ := List.map_eq_append_iff.mp h
  obtain ⟨⟨number, name⟩, after, rfl, rfl, -⟩ := List.map_eq_cons_iff.mp hrest
  refine ⟨number, by simp [hsplit], ?_⟩
  intro later hlater
  have hascend := separators_ascend text
  rw [hsplit, List.map_append, List.map_cons, List.pairwise_append, List.pairwise_cons] at hascend
  rw [hsplit] at hlater
  rcases List.mem_append.mp hlater with hmem | hmem
  · exact absurd (List.mem_map.mpr ⟨_, hmem, rfl⟩) hfront
  · rcases List.mem_cons.mp hmem with heq | hmem
    · exact absurd (Prod.mk.inj heq).2 hne
    · exact hascend.2.1.1 later (List.mem_map.mpr ⟨_, hmem, rfl⟩)

/-- The sections of a parsed effect stand in the order in which their keys are defined. -/
theorem definedBefore_of_sections {earlier later : List Section}
    (h : (Effect.parse text identity origin).sections = earlier ++ s :: later) (ht : t ∈ later) :
    DefinedBefore text s.key t.key := by
  have hkeys : ((separatorsOf text).map Prod.snd).eraseDups =
      earlier.map Section.key ++ s.key :: later.map Section.key := by
    have hparse : (Effect.parse text identity origin).sections.map Section.key =
        ((separatorsOf text).map Prod.snd).eraseDups := map_key_parse
    rw [← hparse, h, List.map_append, List.map_cons]
  have hmem : t.key ∈ later.map Section.key := List.mem_map.mpr ⟨t, ht, rfl⟩
  obtain ⟨front, back, hsplit, hfront⟩ := exists_before_of_eraseDups hkeys hmem
  apply definedBefore_of_split hsplit hfront
  intro hsame
  have hnodup := nodup_eraseDups ((separatorsOf text).map Prod.snd)
  rw [hkeys, List.nodup_append, List.nodup_cons] at hnodup
  exact hnodup.2.1.1 (hsame ▸ hmem)

/-- A section at an earlier place is the same section or has a key that is defined before. -/
theorem definedBefore_of_idxOf_le (hs : s ∈ (Effect.parse text identity origin).sections)
    (ht : t ∈ (Effect.parse text identity origin).sections)
    (hle : (Effect.parse text identity origin).sections.idxOf s ≤
      (Effect.parse text identity origin).sections.idxOf t) :
    t = s ∨ DefinedBefore text s.key t.key := by
  obtain ⟨earlier, later, hsections, hnew⟩ := List.eq_append_cons_of_mem hs
  rw [hsections, List.idxOf_append_of_notMem hnew, List.idxOf_cons_self] at hle
  rw [hsections] at ht
  rcases List.mem_append.mp ht with hmem | hmem
  · have hlt : earlier.idxOf t < earlier.length := List.idxOf_lt_length_of_mem hmem
    rw [List.idxOf_append_of_mem hmem] at hle
    omega
  · rcases List.mem_cons.mp hmem with rfl | hmem
    · exact Or.inl rfl
    · exact Or.inr (definedBefore_of_sections hsections hmem)

/-- Sections stand in the order in which their keys are first defined. -/
theorem idxOf_le_iff_definedBefore (hs : s ∈ (Effect.parse text identity origin).sections)
    (ht : t ∈ (Effect.parse text identity origin).sections) :
    (Effect.parse text identity origin).sections.idxOf s ≤
        (Effect.parse text identity origin).sections.idxOf t ↔
      t = s ∨ DefinedBefore text s.key t.key := by
  constructor
  · exact definedBefore_of_idxOf_le hs ht
  · rintro (rfl | hbefore)
    · exact Nat.le_refl _
    · by_contra hlt
      rcases definedBefore_of_idxOf_le ht hs (Nat.le_of_not_le hlt) with rfl | hbehind
      · exact hbefore.asymm hbefore
      · exact hbefore.asymm hbehind

end

/-- The section of a text that a requested key selects: of those that are for the key, one with a
longest key, and the first in the order of definition that has so long a key. -/
structure Section.SelectedBy (s : Section) (requested text : Text) (sections : List Section) :
    Prop where
  mem : s ∈ sections
  starts : Text.lower s.key <+: Text.lower requested
  longest : ∀ t ∈ sections, Text.lower t.key <+: Text.lower requested →
    t.key.length ≤ s.key.length
  first : ∀ t ∈ sections, Text.lower t.key <+: Text.lower requested →
    t.key.length = s.key.length → t = s ∨ DefinedBefore text s.key t.key

/-- The section that is found is the one that the request selects by the order of definition in the
text. -/
theorem bestSection_eq_some_iff_selectedBy {text identity requested : Text}
    {origin : Option SourceFile} {s : Section} :
    (Effect.parse text identity origin).bestSection requested = some s ↔
      s.SelectedBy requested text (Effect.parse text identity origin).sections := by
  rw [Effect.bestSection_eq_some_iff]
  simp only [Section.isFor_iff]
  constructor
  · rintro ⟨hs, hstarts, hlongest, hfirst⟩
    refine ⟨hs, hstarts, hlongest, ?_⟩
    intro t ht hmatch hlength
    exact (idxOf_le_iff_definedBefore hs ht).mp (hfirst t ht hmatch (Nat.le_of_eq hlength.symm))
  · intro h
    refine ⟨h.mem, h.starts, h.longest, ?_⟩
    intro t ht hmatch hlength
    apply (idxOf_le_iff_definedBefore h.mem ht).mpr
    exact h.first t ht hmatch (Nat.le_antisymm (h.longest t ht hmatch) hlength)

/-! ## Main statements -/

/-- Longest start.  A request selects no section exactly if no key, in lower case, starts the lower
case of the request; otherwise it selects, among the sections whose key does, the one with the
longest key, and among those of equal length the one that is defined first. -/
theorem parse_bestSection_longest (text identity requested : Text) (origin : Option SourceFile) :
    ((Effect.parse text identity origin).bestSection requested = none ↔
      ∀ s ∈ (Effect.parse text identity origin).sections,
        ¬ Text.lower s.key <+: Text.lower requested) ∧
    ∀ s, (Effect.parse text identity origin).bestSection requested = some s ↔
      s.SelectedBy requested text (Effect.parse text identity origin).sections := by
  constructor
  · rw [Effect.bestSection_eq_none_iff]
    simp only [← Section.isFor_iff, Bool.not_eq_true]
  · intro s
    exact bestSection_eq_some_iff_selectedBy

/-- A text with a key in two spellings, the first of which is defined again at the end. -/
def glowText : Text :=
  "-- Glow\nold\n-- GLOW\nloud\n-- Glow.Soft\nsoft\n-- Glow\nnew\n".toList

/-- The longest key is selected as it was defined last, and the spelling defined first comes before
the other. -/
theorem parse_bestSection_longest_glow :
    (Effect.parse glowText "glow".toList none).bestSection "glow.hard".toList =
      some ⟨"glow".toList, "Glow".toList, "new\n".toList, 8⟩ ∧
    DefinedBefore glowText "Glow".toList "GLOW".toList := by
  have hbest : (Effect.parse glowText "glow".toList none).bestSection "glow.hard".toList =
      some ⟨"glow".toList, "Glow".toList, "new\n".toList, 8⟩ := by decide +kernel
  have hselected := ((parse_bestSection_longest glowText "glow".toList "glow.hard".toList none).2
    _).mp hbest
  have hother : (⟨"glow".toList, "GLOW".toList, "loud\n".toList, 4⟩ : Section) ∈
      (Effect.parse glowText "glow".toList none).sections := by decide +kernel
  refine ⟨hbest, ?_⟩
  rcases hselected.first _ hother (by decide +kernel) (by decide) with heq | hbefore
  · exact absurd (congrArg Section.firstLine heq) (by decide)
  · exact hbefore

/-- Canonical keys.  The section that a request selects is selected by its own key too, and by every
key in between: one whose lower case starts that of the request and starts with that of the
section's key. -/
theorem bestSection_canonical {effect : Effect} {requested : Text} {s : Section}
    (h : effect.bestSection requested = some s) :
    effect.bestSection s.key = some s ∧
      ∀ key, Text.lower s.key <+: Text.lower key → Text.lower key <+: Text.lower requested →
        effect.bestSection key = some s := by
  constructor
  · exact Effect.bestSection_between h (List.prefix_refl _)
      (Section.isFor_iff.mp (Effect.isFor_of_bestSection h))
  · intro key hlow hhigh
    exact Effect.bestSection_between h hlow hhigh

/-- A text with keys whose lower case is longer than themselves. -/
def islandText : Text := "-- i\nplain\n-- İ\ndotted\n-- İz\ntrail\n".toList

/-- One section is selected by a request, by its own key and by a key between the two. -/
theorem bestSection_canonical_island :
    (Effect.parse islandText "island".toList none).bestSection "i̇ZMİR".toList =
      some ⟨"island".toList, "İz".toList, "trail\n".toList, 6⟩ ∧
    (Effect.parse islandText "island".toList none).bestSection "İz".toList =
      some ⟨"island".toList, "İz".toList, "trail\n".toList, 6⟩ ∧
    (Effect.parse islandText "island".toList none).bestSection "İzM".toList =
      some ⟨"island".toList, "İz".toList, "trail\n".toList, 6⟩ := by
  have hbest : (Effect.parse islandText "island".toList none).bestSection "i̇ZMİR".toList =
      some ⟨"island".toList, "İz".toList, "trail\n".toList, 6⟩ := by decide +kernel
  obtain ⟨hown, hbetween⟩ := bestSection_canonical hbest
  exact ⟨hbest, hown, hbetween _ (by decide +kernel) (by decide +kernel)⟩

/-- Literal starts.  A request that starts with the key of a section finds no section exactly if
the key ends in a sigma of final form, a letter comes behind it in the request, and no other key
starts the request in lower case. -/
theorem bestSection_literal_start_eq_none_iff {effect : Effect} {s : Section}
    (hs : s ∈ effect.sections) (more : Text) :
    effect.bestSection (s.key ++ more) = none ↔
      (Text.EndsInSigma [] s.key ∧ Text.meetsCased more = true) ∧
        ∀ t ∈ effect.sections, t.key ≠ s.key →
          ¬ Text.lower t.key <+: Text.lower (s.key ++ more) := by
  rw [Effect.bestSection_eq_none_iff]
  simp only [← Bool.not_eq_true, Section.isFor_iff]
  constructor
  · intro hnone
    have hown := hnone s hs
    rw [Text.lower_initial_iff, not_not] at hown
    refine ⟨hown, ?_⟩
    intro t ht _
    exact hnone t ht
  · rintro ⟨hsigma, hothers⟩ t ht
    by_cases hkey : t.key = s.key
    · rw [hkey, Text.lower_initial_iff, not_not]
      exact hsigma
    · exact hothers t ht hkey

/-- A text whose only key ends in a sigma. -/
def odeText : Text := "-- ΛΟΓΟΣ\nverse\n".toList

/-- The last sigma of the key has another form in front of a letter, so the request with more
letters finds nothing, and the one with a digit finds the section. -/
theorem bestSection_literal_start_ode :
    Text.EndsInSigma [] "ΛΟΓΟΣ".toList ∧ Text.meetsCased ".ΕΙΔΟΣ".toList = true ∧
    (Effect.parse odeText "ode".toList none).bestSection ("ΛΟΓΟΣ".toList ++ ".ΕΙΔΟΣ".toList) =
      none ∧
    (Effect.parse odeText "ode".toList none).bestSection ("ΛΟΓΟΣ".toList ++ ".1".toList) ≠
      none := by
  have hs : (⟨"ode".toList, "ΛΟΓΟΣ".toList, "verse\n".toList, 2⟩ : Section) ∈
      (Effect.parse odeText "ode".toList none).sections := by decide +kernel
  have hsigma : Text.EndsInSigma [] "ΛΟΓΟΣ".toList :=
    ⟨"ΛΟΓΟ".toList, [], by decide, by decide +kernel, by simp⟩
  have hmore : Text.meetsCased ".ΕΙΔΟΣ".toList = true := by decide +kernel
  have honly : ∀ t ∈ (Effect.parse odeText "ode".toList none).sections,
      t.key = "ΛΟΓΟΣ".toList := by decide +kernel
  refine ⟨hsigma, hmore, ?_, ?_⟩
  · apply (bestSection_literal_start_eq_none_iff hs ".ΕΙΔΟΣ".toList).mpr
    exact ⟨⟨hsigma, hmore⟩, fun t ht hne => absurd (honly t ht) hne⟩
  · intro hnone
    have hletter := ((bestSection_literal_start_eq_none_iff hs ".1".toList).mp hnone).1.2
    exact absurd hletter (by decide +kernel)

/-- A request that starts with a key, and yet finds no section. -/
theorem not_forall_literal_start :
    ¬ ∀ (text identity : Text) (s : Section) (more : Text),
      s ∈ (Effect.parse text identity none).sections →
        (Effect.parse text identity none).bestSection (s.key ++ more) ≠ none := by
  intro hall
  apply hall odeText "ode".toList ⟨"ode".toList, "ΛΟΓΟΣ".toList, "verse\n".toList, 2⟩
    ".ΕΙΔΟΣ".toList
  · decide +kernel
  · decide +kernel

/-- Own keys.  The key of a section selects a section whose lower case starts the lower case of the
key.  Its key is longer than the given one, or as long, and then it is the given section or one that
is defined before it.  It has all of the lower case unless a section with less of it has a key that
is no shorter than the given one; and if the given key holds no dotted capital, it has all of the
lower case, and is the given section or one that is defined before it. -/
theorem parse_bestSection_own_key {text identity : Text} {origin : Option SourceFile} {s : Section}
    (hs : s ∈ (Effect.parse text identity origin).sections) :
    ∃ best, (Effect.parse text identity origin).bestSection s.key = some best ∧
      Text.lower best.key <+: Text.lower s.key ∧
      (s.key.length < best.key.length ∨ s.key.length = best.key.length ∧
        (best = s ∨ DefinedBefore text best.key s.key)) ∧
      ((∀ t ∈ (Effect.parse text identity origin).sections,
          Text.lower t.key <+: Text.lower s.key → Text.lower t.key ≠ Text.lower s.key →
            t.key.length < s.key.length) →
        Text.lower best.key = Text.lower s.key) ∧
      (Text.dottedCapital ∉ s.key →
        Text.lower best.key = Text.lower s.key ∧
          (best = s ∨ DefinedBefore text best.key s.key)) := by
  have hself : Text.lower s.key <+: Text.lower s.key := List.prefix_refl _
  obtain ⟨best, hbest⟩ := Effect.exists_bestSection hs (Section.isFor_iff.mpr hself)
  have hselected := bestSection_eq_some_iff_selectedBy.mp hbest
  have hlength : s.key.length ≤ best.key.length := hselected.longest s hs hself
  have hfirst : s.key.length = best.key.length →
      best = s ∨ DefinedBefore text best.key s.key := by
    intro hsame
    rcases hselected.first s hs hself hsame with heq | hbefore
    · exact Or.inl heq.symm
    · exact Or.inr hbefore
  refine ⟨best, hbest, hselected.starts, ?_, ?_, ?_⟩
  · rcases Nat.lt_or_eq_of_le hlength with hlt | hsame
    · exact Or.inl hlt
    · exact Or.inr ⟨hsame, hfirst hsame⟩
  · intro hshorter
    by_contra hless
    have hlt := hshorter best hselected.mem hselected.starts hless
    omega
  · intro hdot
    -- without a dotted capital the lower case is as long as the key, so all of it is there
    have hlower : Text.lower best.key = Text.lower s.key :=
      Text.lower_eq_of_length_le hselected.starts hlength hdot
    have hsame : s.key.length = best.key.length := by
      have hcount := congrArg List.length hlower
      rw [Text.length_lower, Text.length_lower, List.count_eq_zero.mpr hdot] at hcount
      omega
    exact ⟨hlower, hfirst hsame⟩

/-- The second spelling of a key selects the section of the first one. -/
theorem parse_bestSection_own_key_glow :
    ∃ best, (Effect.parse glowText "glow".toList none).bestSection "GLOW".toList = some best ∧
      Text.lower best.key = "glow".toList ∧ DefinedBefore glowText best.key "GLOW".toList := by
  have hs : (⟨"glow".toList, "GLOW".toList, "loud\n".toList, 4⟩ : Section) ∈
      (Effect.parse glowText "glow".toList none).sections := by decide +kernel
  obtain ⟨best, hbest, -, -, -, hplain⟩ := parse_bestSection_own_key hs
  obtain ⟨hlower, hfirst⟩ := hplain (by decide)
  refine ⟨best, hbest, hlower.trans (by decide +kernel), ?_⟩
  rcases hfirst with rfl | hbefore
  · exact absurd hbest (by decide +kernel)
  · exact hbefore

/-- A key with a dotted capital that selects a section with less of its lower case. -/
theorem bestSection_dotted_less_specific :
    (⟨"island".toList, "İ".toList, "dotted\n".toList, 4⟩ : Section) ∈
      (Effect.parse islandText "island".toList none).sections ∧
    (Effect.parse islandText "island".toList none).bestSection "İ".toList =
      some ⟨"island".toList, "i".toList, "plain\n".toList, 2⟩ ∧
    Text.lower "i".toList ≠ Text.lower "İ".toList := by
  decide +kernel

end ShaderCompose
