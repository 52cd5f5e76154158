import ShaderCompose.Expansion
import ShaderCompose.Proofs.Path.Resolution

/-!
# Keys seen from another directory

An effect can be named from the directory that it is in or from one further out.  Two keys are alike
with respect to a directory if the second one names from outside what the first one names from
inside that directory.  Alike keys stand for the same source file if the base directories differ by
that directory as well, and what effects include keeps their keys alike, also where double dots lead
out of the directory or an absolute path leads elsewhere.
-/

set_option autoImplicit false

namespace ShaderCompose

/-! ## Plain texts -/

namespace Text

/-- A text without blanks and backslashes. -/
def Plain (t : Text) : Prop := ∀ c ∈ t, isBlank c = false ∧ c ≠ '\\'

instance (t : Text) : Decidable t.Plain :=
  List.decidableBAll (fun c => isBlank c = false ∧ c ≠ '\\') t

/-- A plain text has no blanks to be stripped of. -/
theorem strip_of_plain {t : Text} (h : t.Plain) : strip t = t := by
  have hstart : stripStart t = t := by
    cases t with
    | nil => rfl
    | cons c t => simp [stripStart, (h c List.mem_cons_self).1]
  unfold strip
  rw [hstart]
  rcases List.eq_nil_or_concat t with rfl | ⟨front, last, rfl⟩
  · rfl
  · have hlast : isBlank last = false := (h last (by simp)).1
    simp [stripEnd, dropEndWhile, hlast]

/-- Replacing a character changes nothing in a text that does not have it. -/
theorem replaceChar_of_notMem {t : Text} {old : Char} (h : old ∉ t) (new : Char) :
    replaceChar old new t = t := by
  have hsame : ∀ c ∈ t, (if c = old then new else c) = c := by
    intro c hc
    have hne : c ≠ old := by
      rintro rfl
      exact h hc
    rw [if_neg hne]
  exact (List.map_congr_left hsame).trans (List.map_id t)

/-- A plain text has no backslashes to be replaced. -/
theorem replaceChar_of_plain {t : Text} (h : t.Plain) : replaceChar '\\' '/' t = t :=
  replaceChar_of_notMem (fun hmem => (h _ hmem).2 rfl) '/'

/-- Plainness carries over to a text whose characters all occur in a plain one. -/
theorem Plain.mono {t u : Text} (h : t.Plain) (hsub : ∀ c ∈ u, c ∈ t) : u.Plain :=
  fun c hc => h c (hsub c hc)

end Text

namespace Path

/-- The characters of a joined path are those of the two paths, and a slash. -/
theorem mem_of_mem_join {base path : Text} {c : Char} (h : c ∈ join base path) :
    c ∈ base ∨ c ∈ path ∨ c = '/' := by
  unfold join at h
  split at h
  · exact Or.inr (Or.inl h)
  · split at h
    · rcases List.mem_append.mp h with h | h
      · exact Or.inl h
      · exact Or.inr (Or.inl h)
    · rcases List.mem_append.mp h with h | h
      · exact Or.inl h
      · rcases List.mem_cons.mp h with h | h
        · exact Or.inr (Or.inr h)
        · exact Or.inr (Or.inl h)

/-- Plain paths make a plain path when they are joined. -/
theorem plain_join {base path : Text} (hbase : base.Plain) (hpath : path.Plain) :
    (join base path).Plain := by
  intro c hc
  rcases mem_of_mem_join hc with hc | hc | rfl
  · exact hbase c hc
  · exact hpath c hc
  · decide

/-- The normal form of a plain path is plain. -/
theorem plain_normalize {path : Text} (h : path.Plain) : (normalize path).Plain := by
  intro c hc
  rcases mem_of_mem_normalize hc with hc | rfl | rfl
  · exact h c hc
  · decide
  · decide

end Path

/-! ## Names and section keys -/

namespace EffectKey

/-- A plain key is tidy. -/
theorem tidy_of_plain {key : Text} (h : key.Plain) : tidy key = key := by
  unfold tidy
  rw [Text.strip_of_plain h, Text.replaceChar_of_plain h]

/-- A key that is taken apart with success has parts. -/
theorem split?_of_split {key : Text} {parts : EffectKey} (h : split key = .ok parts) :
    split? key = some parts := by
  unfold split at h
  cases hsplit : split? key with
  | none => simp [hsplit] at h
  | some found =>
    rw [hsplit] at h
    rw [Except.ok.inj h]

/-- The name and the section key in the last part of an effect key. -/
def divide? (last : Text) : Option (Text × Text) :=
  match last.dropWhile (· ≠ '.') with
  | [] => none
  | _ :: sectionKey =>
    if (last.takeWhile (· ≠ '.')).isEmpty then none
    else some (last.takeWhile (· ≠ '.'), sectionKey)

/-- The last part of a tidy key is divided into name and section key, and the directory goes with
the name. -/
theorem split?_eq (key : Text) :
    split? key = (divide? (Path.lastPart (tidy key))).map fun entry =>
      ⟨Path.join (Path.directory (tidy key)) entry.1, entry.2⟩ := by
  have hjoin : ∀ dir name : Text,
      (if dir.isEmpty then name else Path.join dir name) = Path.join dir name := by
    intro dir name
    cases dir <;> simp [Path.join]
  unfold split? divide?
  cases hdrop : (Path.lastPart (tidy key)).dropWhile (· ≠ '.') with
  | nil => simp only [hdrop]; rfl
  | cons dot sectionKey =>
    simp only [hdrop, hjoin]
    split <;> rfl

/-- A plain key is taken apart without being tidied first. -/
theorem split?_of_plain {key : Text} (h : key.Plain) :
    split? key = (divide? (Path.lastPart key)).map fun entry =>
      ⟨Path.join (Path.directory key) entry.1, entry.2⟩ := by
  rw [split?_eq, tidy_of_plain h]

/-- A name that comes out of a division is not empty and has no new characters. -/
theorem divide?_eq_some {last name sectionKey : Text} (h : divide? last = some (name, sectionKey)) :
    name ≠ [] ∧ ∀ c ∈ name, c ∈ last := by
  unfold divide? at h
  split at h
  · simp at h
  · split at h
    · simp at h
    · next hname =>
      simp only [Option.some.injEq, Prod.mk.injEq] at h
      rw [← h.1]
      refine ⟨by simpa using hname, ?_⟩
      intro c hc
      exact (List.takeWhile_sublist _).subset hc

/-- A tidy key has no backslashes. -/
theorem backslash_notMem_tidy (key : Text) : '\\' ∉ tidy key := by
  unfold tidy Text.replaceChar
  intro hmem
  obtain ⟨c, -, hc⟩ := List.mem_map.mp hmem
  split at hc
  · exact absurd hc (by decide)
  · next hne => exact hne hc

/-- The name in an effect key has no backslash in it. -/
theorem backslash_notMem_source {key : Text} {parts : EffectKey} (h : split? key = some parts) :
    '\\' ∉ parts.source := by
  have hclean := backslash_notMem_tidy key
  have hname : '\\' ∉ (Path.lastPart (tidy key)).takeWhile (· ≠ '.') := fun hmem =>
    hclean (Path.mem_of_mem_lastPart ((List.takeWhile_sublist _).subset hmem))
  have hdir : '\\' ∉ Path.directory (tidy key) := fun hmem =>
    hclean (Path.mem_of_mem_directory hmem)
  unfold split? at h
  dsimp only at h
  split at h
  · simp at h
  · split at h
    · simp at h
    · obtain rfl := Option.some.inj h
      dsimp only
      split
      · exact hname
      · unfold Path.join
        split
        · exact hname
        · split
          · simp only [List.mem_append, not_or]
            exact ⟨hdir, hname⟩
          · simp only [List.mem_append, List.mem_cons, not_or]
            exact ⟨hdir, by decide, hname⟩

/-- The name in an effect key stays as it is when it is resolved. -/
theorem replaceChar_of_split? {key : Text} {parts : EffectKey} (h : split? key = some parts) :
    Text.replaceChar '\\' '/' parts.source = parts.source :=
  Text.replaceChar_of_notMem (backslash_notMem_source h) '/'

end EffectKey

/-! ## Directories and keys from inside and outside -/

namespace Path

/-- A directory as it is seen from inside a directory `d` and from outside of it. -/
inductive Seen (d : Text) : Text → Text → Prop
  | absolute {dir : Text} : isAbsolute dir = true → Seen d dir dir
  | relative {dir other : Text} : isAbsolute dir = false → isAbsolute other = false →
      settle (parts d ++ parts dir) = settle (parts other) → Seen d dir other

/-- A key or a name as it is seen from inside a directory `d` and from outside of it. -/
structure Alike (d key other : Text) : Prop where
  plain : key.Plain
  plain_other : other.Plain
  last : lastPart other = lastPart key
  seen : Seen d (directory key) (directory other)

section

variable {d dir other key : Text}

/-- A relative key is seen from outside with the directory in front of it. -/
theorem Alike.of_join (hd : isAbsolute d = false) (hkey : isAbsolute key = false)
    (hplain : d.Plain) (hplainKey : key.Plain) : Alike d key (join d key) := by
  have hlast := lastPart_join hkey d
  have houter : isAbsolute (join d key) = false :=
    (isAbsolute_join_of_not_isAbsolute hkey d).trans hd
  refine ⟨hplainKey, plain_join hplain hplainKey, hlast, .relative ?_ ?_ ?_⟩
  · rw [isAbsolute_directory, hkey]
  · rw [isAbsolute_directory, houter]
  · have hparts : parts (directory (join d key)) ++ parts (lastPart key) =
        (parts d ++ parts (directory key)) ++ parts (lastPart key) := by
      rw [← hlast, parts_directory_append, hlast, List.append_assoc, parts_directory_append,
        parts_join hkey]
    rw [List.append_cancel_right hparts]

/-- What a relative key settles to if its normal form can be taken apart: its last part is a name,
which no directory in front of it changes. -/
theorem settle_of_split? (hkey : isAbsolute key = false) (hplain : key.Plain)
    (hsplit : (EffectKey.split? (normalize key)).isSome) :
    ∃ first last, settle (parts key) = first ++ [last] ∧ last ≠ parent := by
  rw [EffectKey.split?_of_plain (plain_normalize hplain), Option.isSome_map] at hsplit
  rcases List.eq_nil_or_concat (settle (parts key)) with hnil | ⟨first, last, hsettle⟩
  · -- nothing is left of the key, and its normal form is a dot
    have hdot : normalize key = ['.'] := by
      unfold normalize
      rw [root_of_not_isAbsolute hkey, resolvedParts_of_not_isAbsolute hkey, hnil]
      rfl
    rw [hdot] at hsplit
    exact absurd hsplit (by decide)
  · rw [List.concat_eq_append] at hsettle
    refine ⟨first, last, hsettle, ?_⟩
    rintro rfl
    rw [(normalize_of_settle hkey hsettle).1] at hsplit
    exact absurd hsplit (by decide)

/-- What an effect includes is seen from inside and from outside as the effect itself is. -/
theorem Seen.include (h : Seen d dir other) (hdir : dir.Plain) (hother : other.Plain)
    (hplain : key.Plain) (hsplit : (EffectKey.split? (normalize key)).isSome) :
    Alike d (Include.relativeTo dir key) (Include.relativeTo other key) := by
  have hplainDir := plain_normalize (plain_join hdir hplain)
  have hplainOther := plain_normalize (plain_join hother hplain)
  unfold Include.relativeTo
  cases habsolute : isAbsolute key with
  | true =>
    rw [join_of_isAbsolute habsolute] at hplainDir ⊢
    rw [join_of_isAbsolute habsolute]
    refine ⟨hplainDir, hplainDir, rfl, .absolute ?_⟩
    rw [isAbsolute_directory, isAbsolute_normalize, habsolute]
  | false =>
    cases h with
    | absolute hroot =>
      refine ⟨hplainDir, hplainDir, rfl, .absolute ?_⟩
      rw [isAbsolute_directory, isAbsolute_normalize,
        isAbsolute_join_of_not_isAbsolute habsolute, hroot]
    | relative hinner houter hsettle =>
      obtain ⟨first, last, hkey, hname⟩ := settle_of_split? habsolute hplain hsplit
      -- whatever directory is in front of the key, its name stays at the end
      have hfront : ∀ front : List Text,
          settle (front ++ parts key) = settle (front ++ first) ++ [last] := by
        intro front
        rw [← settle_append_settle, hkey, ← List.append_assoc, settle_snoc hname]
      have hjoin : ∀ base,
          settle (parts (join base key)) = settle (parts base ++ first) ++ [last] := by
        intro base
        rw [parts_join habsolute, hfront]
      have hrelative : ∀ base, isAbsolute base = false → isAbsolute (join base key) = false := by
        intro base hbase
        rw [isAbsolute_join_of_not_isAbsolute habsolute, hbase]
      obtain ⟨hlast, hdirectory⟩ := normalize_of_settle (hrelative dir hinner) (hjoin dir)
      obtain ⟨hlast', hdirectory'⟩ := normalize_of_settle (hrelative other houter) (hjoin other)
      refine ⟨hplainDir, hplainOther, hlast'.trans hlast.symm, .relative ?_ ?_ ?_⟩
      · rw [isAbsolute_directory, isAbsolute_normalize, hrelative dir hinner]
      · rw [isAbsolute_directory, isAbsolute_normalize, hrelative other houter]
      · rw [hdirectory, hdirectory', settle_append_settle, ← List.append_assoc,
          ← settle_settle_append, hsettle, settle_settle_append, settle_settle]

/-- Alike keys are both taken apart or both refused; their section keys are the same, and the names
of their sources are alike. -/
theorem Alike.split? (h : Alike d key other) :
    (EffectKey.split? key = none ∧ EffectKey.split? other = none) ∨
      ∃ name name' sectionKey, EffectKey.split? key = some ⟨name, sectionKey⟩ ∧
        EffectKey.split? other = some ⟨name', sectionKey⟩ ∧ Alike d name name' ∧
        lastPart name ≠ [] := by
  rw [EffectKey.split?_of_plain h.plain, EffectKey.split?_of_plain h.plain_other, h.last]
  cases hdivide : EffectKey.divide? (lastPart key) with
  | none => exact Or.inl ⟨rfl, rfl⟩
  | some entry =>
    obtain ⟨name, sectionKey⟩ := entry
    obtain ⟨hne, hmem⟩ := EffectKey.divide?_eq_some hdivide
    have hslash : '/' ∉ name := fun hc => slash_notMem_lastPart key (hmem _ hc)
    have hplain : name.Plain := h.plain.mono fun c hc => mem_of_mem_lastPart (hmem c hc)
    have hnamed : ∀ path, lastPart (join (directory path) name) = name := by
      intro path
      rw [lastPart_join (isAbsolute_of_notMem hslash), lastPart_of_notMem hslash]
    refine Or.inr ⟨_, _, sectionKey, rfl, rfl, ⟨?_, ?_, ?_, ?_⟩, ?_⟩
    · exact plain_join (h.plain.mono fun c => mem_of_mem_directory) hplain
    · exact plain_join (h.plain_other.mono fun c => mem_of_mem_directory) hplain
    · rw [hnamed, hnamed]
    · rw [directory_join_directory hslash, directory_join_directory hslash]
      exact h.seen
    · rw [hnamed]
      exact hne

end

end Path

/-! ## Locations -/

/-- The registry with a base directory further in. -/
def Registry.inside (r : Registry) (d : Text) : Registry :=
  { r with baseDir := Path.join r.baseDir d }

/-- Where a file in a directory is, from inside and from outside. -/
theorem Path.Seen.location {d dir other : Text} (h : Path.Seen d dir other)
    (hd : Path.isAbsolute d = false) (base : Text) {name : Text}
    (hname : Path.isAbsolute name = false) :
    Path.normalize (Path.join (Path.join (Path.join base d) dir) name) =
      Path.normalize (Path.join (Path.join base other) name) := by
  cases h with
  | absolute hroot => rw [Path.join_of_isAbsolute hroot, Path.join_of_isAbsolute hroot]
  | relative hinner houter hsettle =>
    apply Path.normalize_congr
    · rw [Path.root_join hname, Path.root_join hinner, Path.root_join hd, Path.root_join hname,
        Path.root_join houter]
    · have hmiddle : ∀ absolute start,
          (Path.parts d ++ Path.parts dir).foldl (Path.descend absolute) start =
            (Path.parts other).foldl (Path.descend absolute) start := by
        intro absolute start
        rw [← Path.foldl_settle, hsettle, Path.foldl_settle]
      have habsolute := Path.isAbsolute_join_of_not_isAbsolute hname
      unfold Path.resolvedParts
      rw [habsolute, habsolute, Path.isAbsolute_join_of_not_isAbsolute hinner,
        Path.isAbsolute_join_of_not_isAbsolute hd, Path.isAbsolute_join_of_not_isAbsolute houter,
        Path.parts_join hname, Path.parts_join hinner, Path.parts_join hd, Path.parts_join hname,
        Path.parts_join houter]
      simp only [List.foldl_append] at hmiddle ⊢
      rw [hmiddle]

/-- Alike names have the same default location, from inside and from outside. -/
theorem Path.Alike.defaultLocation {d name other : Text} (h : Path.Alike d name other)
    (hd : Path.isAbsolute d = false) (hname : Path.lastPart name ≠ []) (r : Registry) :
    (r.inside d).defaultLocation name = r.defaultLocation other := by
  have hrelative := Path.isAbsolute_of_notMem (Path.slash_notMem_lastPart name)
  unfold Registry.defaultLocation Registry.inside
  rw [h.last]
  dsimp only
  split
  · exact h.seen.location hd r.baseDir hrelative
  · have hlonger : Path.isAbsolute (Path.lastPart name ++ '.' :: r.extension) = false := by
      cases hlast : Path.lastPart name with
      | nil => exact absurd hlast hname
      | cons c rest =>
        rw [hlast] at hrelative
        simpa [Path.isAbsolute] using hrelative
    rw [Path.join_append hname hrelative, Path.join_append hname hrelative]
    exact h.seen.location hd r.baseDir hlonger

end ShaderCompose
