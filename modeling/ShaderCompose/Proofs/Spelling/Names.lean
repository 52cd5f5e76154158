import ShaderCompose.Proofs.Relocation.Composition
import ShaderCompose.Proofs.Text.LowerCase

/-!
# Names that are spelled differently

The directory in front of a name can be spelled in many ways with the same normal form.  Such names
have the same default location, and what is included relative to their directories is the same, so
they differ only for declarations that are made for a name with a directory in it.  Without such
declarations, names with the same last part and the same normal directory resolve to the same place.
-/

set_option autoImplicit false

namespace ShaderCompose

/-! ## Paths with the same normal form -/

namespace Path

/-- Parts that stay where they are when a path is normalised. -/
def isName (part : Text) : Bool := isPart part && part != parent

/-- A name is a part that is neither empty nor a single or a double dot. -/
theorem isName_iff {part : Text} :
    isName part = true ↔ part ≠ [] ∧ part ≠ ['.'] ∧ part ≠ parent := by
  simp [isName, isPart, and_assoc]

/-- A name is a part of a path. -/
theorem isPart_of_isName {part : Text} (h : isName part = true) : isPart part = true :=
  (Bool.and_eq_true_iff.mp h).1

/-- A name is no double dot. -/
theorem ne_parent_of_isName {part : Text} (h : isName part = true) : part ≠ parent := by
  simpa using (Bool.and_eq_true_iff.mp h).2

/-- Paths have the same normal form exactly if they have the same root and the same resolved
parts. -/
theorem normalize_eq_iff {path other : Text} :
    normalize path = normalize other ↔
      root path = root other ∧ resolvedParts path = resolvedParts other := by
  constructor
  · intro h
    rw [← root_normalize path, ← root_normalize other, ← parts_normalize path,
      ← parts_normalize other, h]
    exact ⟨rfl, rfl⟩
  · rintro ⟨hroot, hparts⟩
    exact normalize_congr hroot hparts

/-- Paths with the same normal form are both absolute or both relative. -/
theorem isAbsolute_congr {path other : Text} (h : normalize path = normalize other) :
    isAbsolute path = isAbsolute other := by
  rw [← isAbsolute_normalize path, h, isAbsolute_normalize]

/-- Where a path leads from a directory depends on the normal form of the directory only. -/
theorem normalize_join_congr_left {dir other : Text} (h : normalize dir = normalize other)
    (path : Text) : normalize (join dir path) = normalize (join other path) := by
  cases habsolute : isAbsolute path with
  | true => rw [join_of_isAbsolute habsolute, join_of_isAbsolute habsolute]
  | false =>
    obtain ⟨hroot, hparts⟩ := normalize_eq_iff.mp h
    have hfold := List.reverse_injective hparts
    rw [isAbsolute_congr h] at hfold
    apply normalize_congr
    · rw [root_join habsolute, root_join habsolute, hroot]
    · unfold resolvedParts
      rw [isAbsolute_join_of_not_isAbsolute habsolute, isAbsolute_join_of_not_isAbsolute habsolute,
        parts_join habsolute, parts_join habsolute, List.foldl_append, List.foldl_append,
        isAbsolute_congr h, hfold]

/-- Where a path leads from a directory depends on the normal form of the path only. -/
theorem normalize_join_congr_right {path other : Text} (h : normalize path = normalize other)
    (dir : Text) : normalize (join dir path) = normalize (join dir other) := by
  have hsame := isAbsolute_congr h
  cases habsolute : isAbsolute path with
  | true =>
    rw [habsolute] at hsame
    rw [join_of_isAbsolute habsolute, join_of_isAbsolute hsame.symm, h]
  | false =>
    rw [habsolute] at hsame
    obtain ⟨-, hparts⟩ := normalize_eq_iff.mp h
    rw [resolvedParts_of_not_isAbsolute habsolute,
      resolvedParts_of_not_isAbsolute hsame.symm] at hparts
    apply normalize_congr
    · rw [root_join habsolute, root_join hsame.symm]
    · unfold resolvedParts
      rw [isAbsolute_join_of_not_isAbsolute habsolute,
        isAbsolute_join_of_not_isAbsolute hsame.symm, parts_join habsolute, parts_join hsame.symm,
        List.foldl_append, List.foldl_append, ← foldl_settle, hparts, foldl_settle]

/-! ## Directories and last parts of normal forms -/

/-- The directory of a path has the root of the path. -/
theorem root_directory (path : Text) : root (directory path) = root path := by
  rcases exists_last_slash path with hnone | ⟨start, rest, rfl, hrest⟩
  · rw [directory_of_notMem hnone, root_of_not_isAbsolute (isAbsolute_of_notMem hnone)]
    rfl
  · rw [directory_append start hrest]
    split
    · have hsplit : start ++ '/' :: rest = (start ++ ['/']) ++ rest := by simp
      rw [hsplit, root_append (isAbsolute_of_notMem hrest)]
    · next hall =>
      -- the last character that is kept is no slash, and what is behind it does not matter
      obtain ⟨slashes, hstart⟩ : Text.dropEndWhile (· = '/') start <+: start :=
        List.rdropWhile_prefix _ _
      obtain ⟨front, last, hkept, hlast⟩ : ∃ front last,
          Text.dropEndWhile (· = '/') start = front ++ [last] ∧ last ≠ '/' := by
        have hne : List.rdropWhile (fun c => decide (c = '/')) start ≠ [] := by
          rw [Ne, List.rdropWhile_eq_nil_iff]
          simpa using hall
        refine ⟨_, _, (List.dropLast_append_getLast hne).symm, ?_⟩
        simpa using List.rdropWhile_last_not _ _ hne
      have hbehind : ∀ more : Text, root (front ++ last :: more) = root front := fun more =>
        root_append (by simpa [isAbsolute] using hlast)
      have hsplit : start ++ '/' :: rest = front ++ last :: (slashes ++ '/' :: rest) := by
        rw [← hstart, hkept]
        simp
      rw [hsplit, hkept, hbehind, hbehind]

/-- If the last part of a path is a name, then it comes behind the resolved parts of the
directory. -/
theorem resolvedParts_eq_append {path : Text} (h : isName (lastPart path) = true) :
    resolvedParts path = resolvedParts (directory path) ++ [lastPart path] := by
  have hlast : parts (lastPart path) = [lastPart path] := by
    rw [parts_eq_filter, Text.pieces_of_notMem (slash_notMem_lastPart path)]
    simp [isPart_of_isName h]
  unfold resolvedParts
  rw [← parts_directory_append path, hlast, List.foldl_append, isAbsolute_directory]
  simp [descend, ne_parent_of_isName h]

/-- Paths with the same normal form that end in the same name have directories with the same normal
form. -/
theorem normalize_directory_congr {path other : Text} (h : normalize path = normalize other)
    (hlast : lastPart path = lastPart other) (hname : isName (lastPart other) = true) :
    normalize (directory path) = normalize (directory other) := by
  obtain ⟨hroot, hparts⟩ := normalize_eq_iff.mp h
  apply normalize_congr
  · rw [root_directory, root_directory, hroot]
  · have hname' : isName (lastPart path) = true := by rw [hlast, hname]
    rw [resolvedParts_eq_append hname, resolvedParts_eq_append hname', hlast] at hparts
    exact List.append_cancel_right hparts

/-- Normalising keeps a last part that is a name. -/
theorem lastPart_normalize {path : Text} (h : isName (lastPart path) = true) :
    lastPart (normalize path) = lastPart path := by
  have hparts := resolvedParts_eq_append h
  have hroot : ∀ t : Text, lastPart (root path ++ t) = lastPart t := by
    intro t
    cases habsolute : isAbsolute path with
    | false => rw [root_of_not_isAbsolute habsolute, List.nil_append]
    | true =>
      rcases root_of_isAbsolute habsolute with hroot | hroot
      · rw [hroot]
        exact lastPart_append [] t
      · rw [hroot]
        exact lastPart_append ['/'] t
  rcases normalize_eq_or path with ⟨-, -, hnil⟩ | hspelled
  · simp [hnil] at hparts
  · rw [hspelled, hroot, hparts, lastPart_joinWith (slash_notMem_lastPart path)]

end Path

/-! ## Declarations without directories -/

/-- No source is declared under a name with a directory in it. -/
def Registry.Undivided (r : Registry) : Prop := ∀ d ∈ r.declarations, '/' ∉ d.logicalName

/-- The last part of a name in lower case is its last part in lower case. -/
theorem Path.lastPart_lower (name : Text) :
    Path.lastPart (Text.lower name) = Text.lower (Path.lastPart name) := by
  have hlower : ∀ t : Text, '/' ∉ t → Path.lastPart (Text.lower t) = Text.lower t := by
    intro t ht
    exact Path.lastPart_of_notMem fun hmem => ht (Text.slash_mem_lower hmem)
  rcases Path.exists_last_slash name with hnone | ⟨start, rest, rfl, hrest⟩
  · rw [hlower name hnone, Path.lastPart_of_notMem hnone]
  · rw [Text.lower_append_slash, Path.lastPart_append, hlower rest hrest, Path.lastPart_append,
      Path.lastPart_of_notMem hrest]

/-- A declaration without a directory looks at the last part of a name only. -/
theorem Declaration.isFor_of_notMem {d : Declaration} (h : '/' ∉ d.logicalName) (name : Text) :
    d.isFor name = (Text.lower d.logicalName == Text.lower (Path.lastPart name)) := by
  have hdeclared : '/' ∉ Text.lower d.logicalName := fun hmem => h (Text.slash_mem_lower hmem)
  unfold isFor
  dsimp only
  rw [Path.lastPart_lower]
  by_cases hwhole : Text.lower d.logicalName = Text.lower name
  · have hlast : Text.lower d.logicalName = Text.lower (Path.lastPart name) := by
      rw [← Path.lastPart_lower, ← hwhole, Path.lastPart_of_notMem hdeclared]
    simp [← hlast]
  · simp [hwhole]

/-- Where no name with a directory is declared, the declaration for a name depends on its last part
only. -/
theorem Registry.Undivided.findDeclaration {r : Registry} (h : r.Undivided) {name other : Text}
    (hlast : Path.lastPart other = Path.lastPart name) :
    r.findDeclaration other = r.findDeclaration name := by
  unfold Registry.findDeclaration
  rw [← List.head?_filter, ← List.head?_filter]
  congr 1
  apply List.filter_congr
  intro d hd
  rw [Declaration.isFor_of_notMem (h d hd), Declaration.isFor_of_notMem (h d hd), hlast]

/-- Keys with the same last part have sources that no declaration tells apart. -/
theorem Registry.Undivided.findDeclaration_source {r : Registry} (h : r.Undivided)
    {key other : Text}
    (hlast : Path.lastPart (EffectKey.tidy other) = Path.lastPart (EffectKey.tidy key))
    {parts parts' : EffectKey} (hparts : EffectKey.split? key = some parts)
    (hparts' : EffectKey.split? other = some parts') :
    r.findDeclaration parts'.source = r.findDeclaration parts.source := by
  rw [EffectKey.split?_eq] at hparts hparts'
  rw [hlast] at hparts'
  obtain ⟨entry, hentry, rfl⟩ := Option.map_eq_some_iff.mp hparts
  obtain ⟨entry', hentry', rfl⟩ := Option.map_eq_some_iff.mp hparts'
  obtain rfl : entry = entry' := Option.some.inj (hentry.symm.trans hentry')
  obtain ⟨-, hmem⟩ := EffectKey.divide?_eq_some hentry
  have hrelative : Path.isAbsolute entry.1 = false :=
    Path.isAbsolute_of_notMem fun hc => Path.slash_notMem_lastPart _ (hmem _ hc)
  apply h.findDeclaration
  rw [Path.lastPart_join hrelative, Path.lastPart_join hrelative]

/-! ## Names for the same source -/

/-- Names that differ in the spelling of their directory, where declarations make no difference. -/
structure Registry.SameSource (r : Registry) (name other : Text) : Prop where
  clean : '\\' ∉ name
  clean_other : '\\' ∉ other
  last : Path.lastPart other = Path.lastPart name
  named : Path.lastPart name ≠ []
  directory : Path.normalize (Path.directory other) = Path.normalize (Path.directory name)
  declared : r.findDeclaration other = r.findDeclaration name

section

variable {r : Registry} {name other : Text}

/-- Names for the same source have the same default location. -/
theorem Registry.SameSource.defaultLocation (h : r.SameSource name other) :
    r.defaultLocation other = r.defaultLocation name := by
  have hrelative := Path.isAbsolute_of_notMem (Path.slash_notMem_lastPart name)
  have hlocation : ∀ last : Text,
      Path.normalize (Path.join (Path.join r.baseDir (Path.directory other)) last) =
        Path.normalize (Path.join (Path.join r.baseDir (Path.directory name)) last) := fun last =>
    Path.normalize_join_congr_left (Path.normalize_join_congr_right h.directory r.baseDir) last
  unfold Registry.defaultLocation
  rw [h.last]
  dsimp only
  split
  · exact hlocation _
  · rw [Path.join_append h.named hrelative, Path.join_append h.named hrelative]
    exact hlocation _

/-- The first of some locations that exists is the same under another name. -/
theorem Registry.firstExisting_samePlace {reader : Reader}
    (hhas : ∀ file, reader.has file = r.reader.has file) (name other detail detail' : Text)
    (locations : List Text) :
    Agree SourceFile.SamePlace (r.firstExisting name (locations.map (r.fileAt name)) detail)
      (({ r with reader } : Registry).firstExisting other (locations.map (r.fileAt other))
        detail') := by
  unfold Registry.firstExisting
  simp only [Reader.sourceReader_has]
  induction locations with
  | nil => exact .error (.effect rfl)
  | cons location rest ih =>
    have hplace : (r.fileAt name location).SamePlace (r.fileAt other location) := ⟨rfl, rfl, rfl⟩
    have hsame : reader.has (r.fileAt other location) = r.reader.has (r.fileAt name location) := by
      rw [hhas, hplace.has]
    simp only [List.map_cons, List.find?_cons, hsame]
    cases r.reader.has (r.fileAt name location) with
    | true => exact .ok hplace
    | false => exact ih

/-- Names with the same declaration resolve to files in the same place, also with another reader
that has the same sources, if they have the same default location or the declaration says where the
source is. -/
theorem Registry.resolve_samePlace {reader : Reader}
    (hhas : ∀ file, reader.has file = r.reader.has file)
    (hfind : r.findDeclaration (Text.replaceChar '\\' '/' other) =
      r.findDeclaration (Text.replaceChar '\\' '/' name))
    (hdefault : (∀ d, r.findDeclaration (Text.replaceChar '\\' '/' name) = some d →
        d.package = none ∧ d.location.getD [] = []) →
      r.defaultLocation (Text.replaceChar '\\' '/' other) =
        r.defaultLocation (Text.replaceChar '\\' '/' name)) :
    Agree SourceFile.SamePlace (r.resolve name) (({ r with reader } : Registry).resolve other) := by
  unfold Registry.resolve
  generalize Text.replaceChar '\\' '/' name = clean at hfind hdefault ⊢
  generalize Text.replaceChar '\\' '/' other = clean' at hfind hdefault ⊢
  have hfind' : ({ r with reader } : Registry).findDeclaration clean' =
      r.findDeclaration clean := hfind
  have hunplaced : (∀ d, r.findDeclaration clean = some d →
      d.package = none ∧ d.location.getD [] = []) → ∀ detail detail' : Text,
      Agree SourceFile.SamePlace
        (r.firstExisting clean [r.fileAt clean (r.defaultLocation clean)] detail)
        (({ r with reader } : Registry).firstExisting clean'
          [r.fileAt clean' (r.defaultLocation clean')] detail') := by
    intro hnone detail detail'
    rw [hdefault hnone]
    exact firstExisting_samePlace hhas clean clean' detail detail' [_]
  dsimp only
  rw [hfind']
  cases hd : r.findDeclaration clean with
  | none => exact hunplaced (by simp [hd]) _ _
  | some d =>
    obtain ⟨label, location, package⟩ := d
    cases package with
    | some package =>
      refine (Agree.refl (Argument.expectText? "package" package)).map ?_
      rintro owner _ rfl
      exact ⟨rfl, rfl, rfl⟩
    | none =>
      match location with
      | none => exact hunplaced (by simp [hd]) _ _
      | some [] => exact hunplaced (by simp [hd]) _ _
      | some (c :: rest) => exact firstExisting_samePlace hhas clean clean' _ _ [_, _]

/-- Names for the same source resolve to files in the same place, also with another reader that has
the same sources. -/
theorem Registry.SameSource.resolve (h : r.SameSource name other) {reader : Reader}
    (hhas : ∀ file, reader.has file = r.reader.has file) :
    Agree SourceFile.SamePlace (r.resolve name) (({ r with reader } : Registry).resolve other) := by
  have hname := Text.replaceChar_of_notMem h.clean '/'
  have hother := Text.replaceChar_of_notMem h.clean_other '/'
  refine Registry.resolve_samePlace hhas ?_ fun _ => ?_
  · rw [hname, hother]
    exact h.declared
  · rw [hname, hother]
    exact h.defaultLocation

end

/-! ## Keys for the same section -/

/-- Keys that both cannot be taken apart, or that have the same section key and names for the same
source.  The directories of the names are of the given kind. -/
def Registry.SameKey (r : Registry) (usable : Text → Prop) (key other : Text) : Prop :=
  (EffectKey.split? key = none ∧ EffectKey.split? other = none) ∨
    ∃ name name' sectionKey, EffectKey.split? key = some ⟨name, sectionKey⟩ ∧
      EffectKey.split? other = some ⟨name', sectionKey⟩ ∧ r.SameSource name name' ∧
      usable (Path.directory name) ∧ usable (Path.directory name')

/-- Keys stand for the same section if their tidy forms have the same last part, and directories
with the same normal form which make no difference to declarations. -/
theorem Registry.sameKey_of_tidy {r : Registry} {usable : Text → Prop} {key other : Text}
    (hlast : Path.lastPart (EffectKey.tidy other) = Path.lastPart (EffectKey.tidy key))
    (hdirectory : Path.normalize (Path.directory (EffectKey.tidy other)) =
      Path.normalize (Path.directory (EffectKey.tidy key)))
    (hdeclared : ∀ parts parts', EffectKey.split? key = some parts →
      EffectKey.split? other = some parts' →
      r.findDeclaration parts'.source = r.findDeclaration parts.source)
    (husable : usable (Path.directory (EffectKey.tidy key)))
    (husable' : usable (Path.directory (EffectKey.tidy other))) : r.SameKey usable key other := by
  have hsplit := EffectKey.split?_eq key
  have hsplit' := EffectKey.split?_eq other
  rw [hlast] at hsplit'
  cases hdivide : EffectKey.divide? (Path.lastPart (EffectKey.tidy key)) with
  | none =>
    rw [hdivide] at hsplit hsplit'
    exact Or.inl ⟨hsplit, hsplit'⟩
  | some entry =>
    obtain ⟨name, sectionKey⟩ := entry
    rw [hdivide, Option.map_some] at hsplit hsplit'
    obtain ⟨hne, hmem⟩ := EffectKey.divide?_eq_some hdivide
    have hslash : '/' ∉ name := fun hc => Path.slash_notMem_lastPart _ (hmem _ hc)
    have hnamed : ∀ dir, Path.lastPart (Path.join dir name) = name := by
      intro dir
      rw [Path.lastPart_join (Path.isAbsolute_of_notMem hslash), Path.lastPart_of_notMem hslash]
    have hdir : ∀ path, Path.directory (Path.join (Path.directory path) name) =
        Path.directory path := Path.directory_join_directory hslash
    refine Or.inr ⟨_, _, sectionKey, hsplit, hsplit', ⟨?_, ?_, ?_, ?_, ?_, ?_⟩, ?_, ?_⟩
    · exact EffectKey.backslash_notMem_source hsplit
    · exact EffectKey.backslash_notMem_source hsplit'
    · rw [hnamed, hnamed]
    · rw [hnamed]
      exact hne
    · rw [hdir, hdir, hdirectory]
    · exact hdeclared _ _ hsplit hsplit'
    · rw [hdir]
      exact husable
    · rw [hdir]
      exact husable'

/-- Keys with the same tidy form are keys for the same section. -/
theorem Registry.sameKey_of_tidy_eq {r : Registry} {usable : Text → Prop} {key other : Text}
    (h : EffectKey.tidy other = EffectKey.tidy key)
    (husable : usable (Path.directory (EffectKey.tidy key))) : r.SameKey usable key other := by
  have hsplit : EffectKey.split? other = EffectKey.split? key := by
    rw [EffectKey.split?_eq, EffectKey.split?_eq, h]
  refine Registry.sameKey_of_tidy (by rw [h]) (by rw [h]) ?_ husable (by rwa [h])
  intro parts parts' hparts hparts'
  rw [hsplit, hparts] at hparts'
  rw [Option.some.inj hparts']

end ShaderCompose
