import ShaderCompose.Proofs.Relocation.Keys
import ShaderCompose.Proofs.Text.CharacterRuns

/-!
# Taking effect keys apart

An effect key can be taken apart exactly if the part behind its last slash has a dot that is not its
first character.  The name in front of the dot goes to the source, together with the directory, and
what is behind the dot is the section key.  Put together again, the two give the tidy key with at
most one slash between the directory and the name, and this spelling is taken apart into the same
source and section key.
-/

set_option autoImplicit false

namespace ShaderCompose

/-! ## Tidy keys -/

namespace Text

/-- A text that neither starts nor ends with a blank. -/
def Stripped (t : Text) : Prop :=
  (∀ c ∈ t.head?, isBlank c = false) ∧ ∀ c ∈ t.getLast?, isBlank c = false

/-- A text that was stripped has no blanks at its ends. -/
theorem stripped_strip (t : Text) : (strip t).Stripped := by
  have hprefix : strip t <+: stripStart t := List.rdropWhile_prefix _ _
  constructor
  · intro c hc
    obtain ⟨rest, hrest⟩ := hprefix
    apply head?_behind_run t
    show c ∈ (stripStart t).head?
    rw [← hrest, List.head?_append, Option.mem_def.mp hc]
    rfl
  · intro c hc
    have hne : List.rdropWhile isBlank (stripStart t) ≠ [] := by
      intro hnil
      have hnone : strip t = [] := hnil
      simp [hnone] at hc
    have hlast := List.rdropWhile_last_not isBlank (stripStart t) hne
    have hc' : (List.rdropWhile isBlank (stripStart t)).getLast? = some c := hc
    rw [List.getLast?_eq_some_getLast hne] at hc'
    rw [Option.some.inj hc'] at hlast
    simpa using hlast

/-- Stripping leaves a text alone that has no blanks at its ends. -/
theorem Stripped.strip_eq {t : Text} (h : t.Stripped) : strip t = t := by
  obtain ⟨hfirst, hlast⟩ := h
  have hstart : stripStart t = t := by
    cases t with
    | nil => rfl
    | cons c rest => simp [stripStart, hfirst c rfl]
  unfold strip
  rw [hstart]
  rcases List.eq_nil_or_concat t with rfl | ⟨front, last, rfl⟩
  · rfl
  · have hblank : isBlank last = false := hlast last (by simp)
    simp [stripEnd, dropEndWhile, hblank]

end Text

namespace EffectKey

/-- Tidying a key strips it. -/
theorem stripped_tidy (key : Text) : (tidy key).Stripped := by
  obtain ⟨hfirst, hlast⟩ := Text.stripped_strip key
  have hblank : ∀ c, Text.isBlank c = false →
      Text.isBlank (if c = '\\' then '/' else c) = false := by
    intro c hc
    split
    · decide
    · exact hc
  unfold tidy Text.replaceChar
  refine ⟨?_, ?_⟩
  · rw [List.head?_map]
    rintro _ hc
    obtain ⟨c, hmem, rfl⟩ := Option.map_eq_some_iff.mp hc
    exact hblank c (hfirst c hmem)
  · rw [List.getLast?_map]
    rintro _ hc
    obtain ⟨c, hmem, rfl⟩ := Option.map_eq_some_iff.mp hc
    exact hblank c (hlast c hmem)

/-- A text without blanks at its ends and without backslashes is tidy. -/
theorem tidy_of_stripped {t : Text} (h : t.Stripped) (hback : '\\' ∉ t) : tidy t = t := by
  unfold tidy
  rw [h.strip_eq, Text.replaceChar_of_notMem hback]

end EffectKey

/-! ## Slashes in front of the last part -/

namespace Path

/-- A path that ends in a part: it has nothing else, or a slash in front of it. -/
def EndsIn (path last : Text) : Prop :=
  '/' ∉ last ∧ (path = last ∨ ∃ start, path = start ++ '/' :: last)

/-- The last part of a path is what the path ends in behind its last slash. -/
theorem endsIn_lastPart (path : Text) : EndsIn path (lastPart path) := by
  refine ⟨slash_notMem_lastPart path, ?_⟩
  rcases exists_last_slash path with hnone | ⟨start, rest, rfl, hrest⟩
  · exact Or.inl (lastPart_of_notMem hnone).symm
  · rw [lastPart_append, lastPart_of_notMem hrest]
    exact Or.inr ⟨start, rfl⟩

/-- A path ends in one part only. -/
theorem EndsIn.lastPart_eq {path last : Text} (h : EndsIn path last) : lastPart path = last := by
  obtain ⟨hslash, rfl | ⟨start, rfl⟩⟩ := h
  · exact lastPart_of_notMem hslash
  · rw [lastPart_append, lastPart_of_notMem hslash]

/-- A text consists of what is left without the slashes at its end, and of these slashes. -/
theorem exists_trailing_slashes (t : Text) :
    (Text.dropEndWhile (· = '/') t).getLast? ≠ some '/' ∧
      ∃ count, t = Text.dropEndWhile (· = '/') t ++ List.replicate count '/' := by
  rw [dropEndWhile_eq]
  constructor
  · intro hslash
    have hne : List.rdropWhile (fun c => decide (c = '/')) t ≠ [] := by
      intro hnil
      simp [hnil] at hslash
    have hlast := List.rdropWhile_last_not (fun c => decide (c = '/')) t hne
    rw [List.getLast?_eq_some_getLast hne] at hslash
    simp [Option.some.inj hslash] at hlast
  · have hslashes : ∀ c ∈ t.rtakeWhile (fun c => decide (c = '/')), c = '/' := by
      intro c hc
      simpa using List.mem_rtakeWhile_imp hc
    refine ⟨(t.rtakeWhile fun c => decide (c = '/')).length, ?_⟩
    rw [← List.eq_replicate_of_mem hslashes, List.rdropWhile_append_rtakeWhile]

/-- What is in front of the last part of a path: something that does not end with a slash, and
slashes.  A name that is joined to the directory of the path is put behind one slash, or behind as
many as there are if there is nothing but slashes. -/
theorem exists_slashes (path : Text) :
    ∃ front count, front.getLast? ≠ some '/' ∧
      path = front ++ (List.replicate count '/' ++ lastPart path) ∧
      ∀ name, '/' ∉ name → join (directory path) name =
        front ++ (List.replicate (if front = [] then count else 1) '/' ++ name) := by
  rcases exists_last_slash path with hnone | ⟨start, rest, rfl, hrest⟩
  · refine ⟨[], 0, by simp, by simp [lastPart_of_notMem hnone], ?_⟩
    intro name hname
    rw [directory_of_notMem hnone, join_of_not_isAbsolute (isAbsolute_of_notMem hname)]
    simp
  · obtain ⟨hend, count, hstart⟩ := exists_trailing_slashes start
    have hall : start.all (· = '/') = true ↔ Text.dropEndWhile (· = '/') start = [] := by
      rw [dropEndWhile_eq, List.rdropWhile_eq_nil_iff]
      simp
    rw [lastPart_append, lastPart_of_notMem hrest, directory_append start hrest]
    generalize Text.dropEndWhile (· = '/') start = front at hend hstart hall
    refine ⟨front, count + 1, hend, by rw [hstart, List.replicate_succ']; simp, ?_⟩
    intro name hname
    rw [join_of_not_isAbsolute (isAbsolute_of_notMem hname)]
    by_cases hfront : front = []
    · rw [if_pos (hall.mpr hfront), if_pos hfront, List.replicate_succ', hstart, hfront]
      simp
    · have hbase : ¬ (front.isEmpty || front.getLast? == some '/') = true := by
        simpa [hfront] using hend
      rw [if_neg (hall.not.mpr hfront), if_neg hfront, if_neg hbase]
      simp

end Path

namespace EffectKey

/-! ## The last part -/

/-- The last part of a key is divided at its first dot, which must not be its first character. -/
theorem divide?_eq_some_iff {last name sectionKey : Text} :
    divide? last = some (name, sectionKey) ↔
      last = name ++ '.' :: sectionKey ∧ name ≠ [] ∧ '.' ∉ name := by
  constructor
  · intro h
    unfold divide? at h
    split at h
    · simp at h
    · next rest hdrop =>
      obtain ⟨hdot, hlast⟩ := Text.of_dropWhile_ne hdrop
      split at h
      · simp at h
      · next hne =>
        obtain ⟨rfl, rfl⟩ := Prod.mk.inj (Option.some.inj h)
        exact ⟨hlast, by simpa using hne, hdot⟩
  · rintro ⟨rfl, hne, hdot⟩
    obtain ⟨htake, hdrop⟩ := Text.takeWhile_ne_append hdot sectionKey
    unfold divide?
    rw [hdrop, htake]
    simp [hne]

/-- The last part of a key cannot be divided exactly if it has no dot or starts with one. -/
theorem divide?_eq_none_iff {last : Text} :
    divide? last = none ↔ '.' ∉ last ∨ last.head? = some '.' := by
  constructor
  · intro h
    by_contra hcontra
    obtain ⟨hdot, hfirst⟩ := not_or.mp hcontra
    obtain ⟨name, sectionKey, rfl, hname⟩ := List.eq_append_cons_of_mem (not_not.mp hdot)
    have hne : name ≠ [] := by
      rintro rfl
      simp at hfirst
    rw [divide?_eq_some_iff.mpr ⟨rfl, hne, hname⟩] at h
    simp at h
  · intro h
    cases hdivide : divide? last with
    | none => rfl
    | some entry =>
      obtain ⟨rfl, hne, hname⟩ := divide?_eq_some_iff.mp hdivide
      obtain ⟨c, more, hcons⟩ := List.exists_cons_of_ne_nil hne
      rcases h with hdot | hfirst
      · simp at hdot
      · rw [hcons] at hfirst hname
        obtain rfl : c = '.' := by simpa using hfirst
        exact absurd List.mem_cons_self hname

/-! ## Keys and their parts -/

/-- The spelling of an effect key with given parts. -/
def text (parts : EffectKey) : Text := parts.source ++ '.' :: parts.sectionKey

/-- A key is refused exactly if the last part of the tidy key has no dot or starts with one. -/
theorem split_eq_error_iff {key : Text} :
    split key = .error (.effect (.invalidKey key)) ↔
      '.' ∉ Path.lastPart (tidy key) ∨ (Path.lastPart (tidy key)).head? = some '.' := by
  rw [← divide?_eq_none_iff]
  unfold split
  rw [split?_eq]
  cases divide? (Path.lastPart (tidy key)) <;> simp

variable {key : Text} {parts : EffectKey}

/-- A key that is taken apart has a name and the section key behind its last slash.  In its source
the slashes in front of the name can be fewer than in the tidy key. -/
theorem exists_name_of_split? (h : split? key = some parts) :
    ∃ name, Path.lastPart (tidy key) = name ++ '.' :: parts.sectionKey ∧ name ≠ [] ∧ '.' ∉ name ∧
      '/' ∉ name ∧ '/' ∉ parts.sectionKey ∧
      parts.source = Path.join (Path.directory (tidy key)) name ∧
      ∃ front count, front.getLast? ≠ some '/' ∧
        tidy key = front ++ (List.replicate count '/' ++ (name ++ '.' :: parts.sectionKey)) ∧
        parts.source = front ++ (List.replicate (if front = [] then count else 1) '/' ++ name) := by
  rw [split?_eq] at h
  obtain ⟨⟨name, sectionKey⟩, hdivide, rfl⟩ := Option.map_eq_some_iff.mp h
  obtain ⟨hlast, hne, hdot⟩ := divide?_eq_some_iff.mp hdivide
  obtain ⟨front, count, hfront, htidy, hjoin⟩ := Path.exists_slashes (tidy key)
  have hslash := Path.slash_notMem_lastPart (tidy key)
  rw [hlast] at htidy hslash
  have hname : '/' ∉ name := fun hmem => hslash (by simp [hmem])
  exact ⟨name, hlast, hne, hdot, hname, fun hmem => hslash (by simp [hmem]), rfl, front, count,
    hfront, htidy, hjoin name hname⟩

/-- The parts put together again have no blanks at their ends. -/
theorem stripped_text (h : split? key = some parts) : parts.text.Stripped := by
  obtain ⟨name, -, -, -, -, -, -, front, count, -, htidy, hsource⟩ := exists_name_of_split? h
  have hstripped := stripped_tidy key
  have htext : parts.text = front ++ (List.replicate (if front = [] then count else 1) '/' ++
      (name ++ '.' :: parts.sectionKey)) := by
    simp [text, hsource]
  rw [htext]
  rw [htidy] at hstripped
  by_cases hfront : front = []
  · rw [if_pos hfront]
    exact hstripped
  · -- the two spellings start and end alike
    obtain ⟨c, more, rfl⟩ := List.exists_cons_of_ne_nil hfront
    simpa [Text.Stripped, List.getLast?_append, List.getLast?_cons] using hstripped

/-- The parts of a key put together again have no backslashes. -/
theorem backslash_notMem_text (h : split? key = some parts) : '\\' ∉ parts.text := by
  obtain ⟨name, hlast, -⟩ := exists_name_of_split? h
  have hclean := backslash_notMem_tidy key
  intro hmem
  rcases List.mem_append.mp hmem with hmem | hmem
  · exact backslash_notMem_source h hmem
  · exact hclean (Path.mem_of_mem_lastPart (by rw [hlast]; exact List.mem_append_right _ hmem))

/-- The spelling of a key by its parts is taken apart into these parts. -/
theorem split?_text (h : split? key = some parts) : split? parts.text = some parts := by
  obtain ⟨name, hlast, hne, hdot, hslash, hslash', hsource, -⟩ := exists_name_of_split? h
  have hend : '/' ∉ name ++ '.' :: parts.sectionKey := by simp [hslash, hslash']
  have htext : parts.text =
      Path.join (Path.directory (tidy key)) (name ++ '.' :: parts.sectionKey) := by
    rw [text, hsource, Path.join_append hne (Path.isAbsolute_of_notMem hslash)]
  rw [split?_eq, tidy_of_stripped (stripped_text h) (backslash_notMem_text h), htext,
    Path.lastPart_join (Path.isAbsolute_of_notMem hend), Path.lastPart_of_notMem hend,
    Path.directory_join_directory hend, divide?_eq_some_iff.mpr ⟨rfl, hne, hdot⟩, Option.map_some,
    ← hsource]

/-- A key is taken apart with success exactly if it has parts; the refusal is the only way to
fail. -/
theorem split_eq_ok_iff : split key = .ok parts ↔ split? key = some parts := by
  unfold split
  cases split? key <;> simp

/-- An effect key is refused exactly if the part behind the last slash of the tidy key has no dot or
starts with one.  Otherwise its source ends in a name without dots, its section key has no slash,
and its spelling by these two is the tidy key up to the number of slashes in front of the name: the
same number if nothing else is in front of them, and one otherwise.  This spelling is taken apart
into the same two parts. -/
theorem split_canonical (key : Text) :
    ∃ last, Path.EndsIn (tidy key) last ∧
      (split key = .error (.effect (.invalidKey key)) ↔ '.' ∉ last ∨ last.head? = some '.') ∧
      (¬ ('.' ∉ last ∨ last.head? = some '.') →
        ∃ parts, split key = .ok parts ∧
          (∃ name, Path.EndsIn parts.source name ∧ name ≠ [] ∧ '.' ∉ name ∧
            ∃ front count, front.getLast? ≠ some '/' ∧
              tidy key =
                front ++ (List.replicate count '/' ++ (name ++ '.' :: parts.sectionKey)) ∧
              parts.source =
                front ++ (List.replicate (if front = [] then count else 1) '/' ++ name)) ∧
          '/' ∉ parts.sectionKey ∧
          split (parts.source ++ '.' :: parts.sectionKey) = .ok parts) := by
  refine ⟨Path.lastPart (tidy key), Path.endsIn_lastPart _, split_eq_error_iff, ?_⟩
  intro hvalid
  obtain ⟨parts, hparts⟩ : ∃ parts, split? key = some parts := by
    rw [← divide?_eq_none_iff, ← Ne, Option.ne_none_iff_exists'] at hvalid
    obtain ⟨entry, hentry⟩ := hvalid
    exact ⟨_, by rw [split?_eq, hentry, Option.map_some]⟩
  obtain ⟨name, -, hne, hdot, hslash, hslash', hsource, hslashes⟩ := exists_name_of_split? hparts
  have hends : Path.EndsIn parts.source name := by
    have hlast := Path.endsIn_lastPart parts.source
    rwa [hsource, Path.lastPart_join (Path.isAbsolute_of_notMem hslash),
      Path.lastPart_of_notMem hslash, ← hsource] at hlast
  exact ⟨parts, split_eq_ok_iff.mpr hparts, ⟨name, hends, hne, hdot, hslashes⟩, hslash',
    split_eq_ok_iff.mpr (split?_text hparts)⟩

/-- A key with blanks around it, backslashes, repeated slashes and dots in its directory. -/
def deltaKey : Text := " \\\\v1.2\\lib///noise.hash.fine\u3000".toList

/-- A key with backslashes, doubled slashes and two dots is taken apart at the first dot, and so is
its canonical spelling. -/
theorem split_canonical_delta :
    ∃ last, Path.EndsIn (tidy deltaKey) last ∧ last = "noise.hash.fine".toList ∧
      ∃ parts, split deltaKey = .ok parts ∧ parts.text = "//v1.2/lib/noise.hash.fine".toList ∧
        split parts.text = .ok parts := by
  obtain ⟨last, hlast, -, hsplit⟩ := split_canonical deltaKey
  obtain rfl : Path.lastPart (tidy deltaKey) = last := hlast.lastPart_eq
  obtain ⟨parts, hparts, -, -, hagain⟩ := hsplit (by decide +kernel)
  refine ⟨_, hlast, by decide +kernel, parts, hparts, ?_, hagain⟩
  obtain rfl : (⟨"//v1.2/lib/noise".toList, "hash.fine".toList⟩ : EffectKey) = parts := by
    have hkey : split? deltaKey = some ⟨"//v1.2/lib/noise".toList, "hash.fine".toList⟩ := by
      decide +kernel
    exact Option.some.inj (hkey.symm.trans (split_eq_ok_iff.mp hparts))
  decide +kernel

end EffectKey

end ShaderCompose
