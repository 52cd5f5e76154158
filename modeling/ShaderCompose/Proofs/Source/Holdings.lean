import ShaderCompose.Proofs.Source.Places

/-!
# The sources at hand

A registry can read finitely many texts, and each of them goes by finitely many identities: the path
of its location for a table, the path of the file with one slash or two in front for a file system,
and what declarations of embedded sources make of it.  `Registry.stock` lists the texts with these
identities, and whatever a name resolves to and can be read is in the list.
-/

set_option autoImplicit false

namespace ShaderCompose

/-- A file that is found at a path has the resolved parts of that path for its place. -/
theorem FileTree.mem_files_of_find {tree : FileTree} {workDir path : Text} {data : List UInt8}
    (h : tree.find workDir path = .file data) :
    (Path.resolvedParts (Path.join (Path.rooted workDir) path), data) ∈ tree.files := by
  obtain ⟨place, hopens, hfile⟩ := find_eq_file_iff.mp h
  rw [← hopens.place_eq]
  exact mem_of_lookup hfile

/-! ## Texts at hand -/

/-- The text of a content, if it has one. -/
def ReadOutcome.text? : ReadOutcome → Option Text
  | .text t => some t
  | .bytes data => (Text.Utf8.decode (Text.Utf8.dropMark data)).toOption
  | _ => none

namespace Registry

/-- A text is read from a content exactly if the content has it. -/
theorem read_eq_ok_iff {r : Registry} {file : SourceFile} {text : Text} :
    r.read file = .ok text ↔ (r.reader.read file).text? = some text := by
  unfold read
  rw [Reader.sourceReader_read]
  cases hread : r.reader.read file with
  | text t => simp [ReadOutcome.decode, ReadOutcome.text?]
  | bytes data =>
    simp only [ReadOutcome.decode, ReadOutcome.text?]
    cases hdecode : Text.Utf8.decode (Text.Utf8.dropMark data) with
    | error e => simp [Except.toOption]
    | ok t => simp [Except.toOption]
  | missing => cases hpackage : file.package <;> simp [ReadOutcome.text?]
  | other kind => simp [ReadOutcome.text?]
  | failed f => by_cases hkind : f.kind.isInputOutput = true <;> simp [hkind, ReadOutcome.text?]

/-- Contents by where they are: the identities of what stands there, and the text of it. -/
def stockOf {α : Type} (identities : α → List Text) (contents : List (α × ReadOutcome)) :
    List (List Text × Text) :=
  contents.filterMap fun entry => entry.2.text?.map fun text => (identities entry.1, text)

/-- The files of a tree as contents. -/
def contentsOf (files : List (List Text × List UInt8)) : List (List Text × ReadOutcome) :=
  files.map fun entry => (entry.1, .bytes entry.2)

/-- The identities of a file by its place in a file tree. -/
def placeIdentities (place : List Text) : List Text :=
  [Path.spelled ['/'] place, Path.spelled ['/', '/'] place]

/-- The texts that a registry can read, with the identities by which they go unless they are
embedded. -/
def stock (r : Registry) : List (List Text × Text) :=
  match r.reader with
  | .table shelf => stockOf (fun location => [Path.absolute r.workDir location]) shelf
  | .function shelf => stockOf (fun location => [Path.absolute r.workDir location]) shelf
  | .disk tree => stockOf placeIdentities (contentsOf (tree.files ++ Builtin.resources.files))
  | .blank => []

/-- The identities of the embedded sources that are declared. -/
def embeddedIdentities (r : Registry) : List Text :=
  r.declarations.map fun d =>
    match d.package with
    | some (.text package) => package ++ ':' :: d.location.getD []
    | _ => []

/-- A content with a text is in stock. -/
theorem mem_stockOf {α : Type} {identities : α → List Text} {contents : List (α × ReadOutcome)}
    {place : α} {content : ReadOutcome} {text : Text} (hmem : (place, content) ∈ contents)
    (htext : content.text? = some text) :
    (identities place, text) ∈ stockOf identities contents := by
  unfold stockOf
  rw [List.mem_filterMap]
  exact ⟨(place, content), hmem, by simp [htext]⟩

/-- The texts in stock are those of the contents. -/
theorem map_snd_stockOf {α : Type} (identities : α → List Text)
    (contents : List (α × ReadOutcome)) :
    (stockOf identities contents).map Prod.snd =
      contents.filterMap fun entry => entry.2.text? := by
  unfold stockOf
  rw [List.map_filterMap]
  congr 1
  funext entry
  cases entry.2.text? <;> rfl

/-- The texts in stock are those that the reader holds. -/
theorem map_snd_stock (r : Registry) : r.stock.map Prod.snd = r.reader.holdings := by
  unfold stock Reader.holdings
  cases r.reader with
  | table shelf => exact map_snd_stockOf _ _
  | function shelf => exact map_snd_stockOf _ _
  | disk tree =>
    simp only [map_snd_stockOf, contentsOf, List.filterMap_map]
    rfl
  | blank => rfl

/-- A text in stock goes by two identities at most. -/
theorem length_identities_le {r : Registry} {entry : List Text × Text} (h : entry ∈ r.stock) :
    entry.1.length ≤ 2 := by
  have hstock : ∀ {α : Type} {identities : α → List Text} {contents : List (α × ReadOutcome)},
      (∀ place, (identities place).length ≤ 2) → entry ∈ stockOf identities contents →
        entry.1.length ≤ 2 := by
    intro α identities contents hlength hmem
    obtain ⟨content, -, hentry⟩ := List.mem_filterMap.mp hmem
    obtain ⟨text, -, rfl⟩ := Option.map_eq_some_iff.mp hentry
    exact hlength content.1
  unfold stock at h
  cases hreader : r.reader with
  | table shelf => rw [hreader] at h; exact hstock (fun _ => by simp) h
  | function shelf => rw [hreader] at h; exact hstock (fun _ => by simp) h
  | disk tree => rw [hreader] at h; exact hstock (fun _ => by simp [placeIdentities]) h
  | blank => rw [hreader] at h; simp at h

/-! ## Resolved sources -/

variable {ρ : Type} [SourceReader ρ]

/-- A single candidate is taken if it exists. -/
theorem firstExisting_singleton (r : Registry) (name detail : Text) (file : SourceFile) :
    r.firstExisting name [file] detail = if r.reader.has file then .ok file
      else .error (.effect (.sourceNotFound name (some detail))) := by
  unfold firstExisting
  simp only [List.find?_cons, List.find?_nil, Reader.sourceReader_has]
  cases r.reader.has file <;> rfl

/-- Names resolve to the same sources with a reader that has the same ones. -/
theorem resolve_of_has_eq {r : Registry} {other : Reader}
    (h : ∀ file, other.has file = r.reader.has file) (name : Text) :
    ({ r with reader := other } : Registry).resolve name = r.resolve name := by
  have hhas : SourceReader.has other = SourceReader.has r.reader := funext h
  unfold resolve firstExisting
  dsimp only
  rw [hhas]
  rfl

/-- There is a file at one of some locations, or the name is not found. -/
theorem firstExisting_cases (r : Registry ρ) (name detail : Text) (locations : List Text) :
    (∃ location, SourceReader.has r.reader (r.fileAt name location) = true ∧
        r.firstExisting name (locations.map (r.fileAt name)) detail =
          .ok (r.fileAt name location)) ∨
      r.firstExisting name (locations.map (r.fileAt name)) detail =
        .error (.effect (.sourceNotFound name (some detail))) := by
  unfold firstExisting
  cases hfind : (locations.map (r.fileAt name)).find? (SourceReader.has r.reader) with
  | none => exact Or.inr rfl
  | some file =>
    obtain ⟨location, -, rfl⟩ := List.mem_map.mp (List.mem_of_find?_eq_some hfind)
    exact Or.inl ⟨location, List.find?_some hfind, rfl⟩

/-- The ways in which a name is resolved: a declaration has a package for it, or some locations are
tried. -/
theorem resolve_forms (r : Registry ρ) (name : Text) :
    (∃ d package, d ∈ r.declarations ∧ d.package = some package ∧
        r.resolve name = (Argument.expectText? "package" package).map fun owner =>
          ⟨Text.replaceChar '\\' '/' name, d.location.getD [], owner, r.workDir⟩) ∨
      ∃ (locations : List Text) (detail : Text),
        r.resolve name = r.firstExisting (Text.replaceChar '\\' '/' name)
          (locations.map (r.fileAt (Text.replaceChar '\\' '/' name))) detail := by
  unfold resolve
  generalize Text.replaceChar '\\' '/' name = clean
  dsimp only
  split
  · rename_i package hfind
    exact Or.inl ⟨_, package, List.mem_of_find?_eq_some hfind, rfl, rfl⟩
  · exact Or.inr ⟨[_, _], _, rfl⟩
  · exact Or.inr ⟨[_], _, rfl⟩

/-- What a name resolves to is embedded as declared, or a file that is read from the working
directory of the registry. -/
theorem resolve_eq_ok {r : Registry} {name : Text} {file : SourceFile}
    (h : r.resolve name = .ok file) :
    file.workDir = r.workDir ∧
      (file.package = none ∨ file.identity ∈ r.embeddedIdentities) := by
  rcases r.resolve_forms name with ⟨d, package, hd, hpackage, hform⟩ | ⟨locations, detail, hform⟩
  · rw [hform] at h
    cases package with
    | text owner =>
      simp only [Argument.expectText?, Except.map, Except.ok.injEq] at h
      subst h
      refine ⟨rfl, Or.inr (List.mem_map.mpr ⟨d, hd, ?_⟩)⟩
      simp [SourceFile.identity, hpackage]
    | none =>
      simp only [Argument.expectText?, Except.map, Except.ok.injEq] at h
      subst h
      exact ⟨rfl, Or.inl rfl⟩
    | _ => simp [Argument.expectText?, Except.map] at h
  · rw [hform] at h
    rcases r.firstExisting_cases _ detail locations with ⟨location, -, hok⟩ | herror
    · obtain rfl := Except.ok.inj (hok.symm.trans h)
      exact ⟨rfl, Or.inl rfl⟩
    · simp [herror] at h

/-- A content that is looked up is in stock under the path of its location. -/
theorem exists_mem_stock_of_lookup {r : Registry} {file : SourceFile} {text : Text} {shelf : Shelf}
    (hdir : file.workDir = r.workDir)
    (htext : ((shelf.lookup file.location).getD .missing).text? = some text) :
    ∃ identities, (identities, text) ∈
      stockOf (fun location => [Path.absolute r.workDir location]) shelf ∧
      (file.package = none → file.identity ∈ identities) := by
  cases hlookup : shelf.lookup file.location with
  | none => simp [hlookup, ReadOutcome.text?] at htext
  | some content =>
    rw [hlookup, Option.getD_some] at htext
    refine ⟨_, mem_stockOf (mem_of_lookup hlookup) htext, fun hpackage => ?_⟩
    simp [SourceFile.identity, hpackage, hdir]

/-- A resource of a package is one of the embedded files. -/
theorem exists_of_resource? {package location : Text} {data : List UInt8}
    (h : Reader.resource? package location = some data) :
    ∃ place, (place, data) ∈ Builtin.resources.files := by
  unfold Reader.resource? at h
  cases hfolder : Builtin.packageFolder? package with
  | none => simp [hfolder] at h
  | some folder =>
    simp only [hfolder] at h
    split at h
    · rename_i content hwalk
      obtain rfl := Option.some.inj h
      obtain ⟨place, -, hplace⟩ := FileTree.walk_eq_file_iff.mp hwalk
      exact ⟨place, mem_of_lookup hplace⟩
    · simp at h

/-- The bytes of a file with a text are in stock under the identities of its place. -/
theorem mem_stockOf_contentsOf {files : List (List Text × List UInt8)} {place : List Text}
    {data : List UInt8} {text : Text} (hmem : (place, data) ∈ files)
    (htext : (ReadOutcome.bytes data).text? = some text) :
    (placeIdentities place, text) ∈ stockOf placeIdentities (contentsOf files) :=
  mem_stockOf (List.mem_map.mpr ⟨(place, data), hmem, rfl⟩) htext

/-- The text of a file is in stock, and under the identity of the file unless it is embedded. -/
theorem exists_mem_stock {r : Registry} {file : SourceFile} {text : Text}
    (hdir : file.workDir = r.workDir) (hread : r.read file = .ok text) :
    ∃ identities, (identities, text) ∈ r.stock ∧
      (file.package = none → file.identity ∈ identities) := by
  have htext := read_eq_ok_iff.mp hread
  unfold stock
  -- only a file system keeps resources of packages apart from its own files
  cases hreader : r.reader with
  | table shelf =>
    exact exists_mem_stock_of_lookup hdir (by simpa [hreader, Reader.read] using htext)
  | function shelf =>
    exact exists_mem_stock_of_lookup hdir (by simpa [hreader, Reader.read] using htext)
  | blank => simp [hreader, Reader.read, ReadOutcome.text?] at htext
  | disk tree =>
    simp only [hreader, Reader.read] at htext
    split at htext
    · simp [ReadOutcome.text?] at htext
    · rename_i package hne hpackage
      cases hresource : Reader.resource? package file.location with
      | none => simp [hresource, ReadOutcome.text?] at htext
      | some data =>
        simp only [hresource] at htext
        obtain ⟨place, hplace⟩ := exists_of_resource? hresource
        exact ⟨_, mem_stockOf_contentsOf (List.mem_append_right _ hplace) htext, by simp [hpackage]⟩
    · rename_i hpackage
      split at htext
      · simp [ReadOutcome.text?] at htext
      · cases hfind : tree.find file.workDir file.location with
        | file data =>
          simp only [hfind] at htext
          have hplace := FileTree.mem_files_of_find hfind
          refine ⟨_, mem_stockOf_contentsOf (List.mem_append_left _ hplace) htext, fun _ => ?_⟩
          unfold SourceFile.identity Path.absolute placeIdentities
          rw [hpackage]
          exact Path.normalize_of_isAbsolute
            (Path.isAbsolute_join (Path.isAbsolute_rooted _) _)
        | folder place => simp [hfind, ReadOutcome.text?] at htext
        | absent => simp [hfind, ReadOutcome.text?] at htext
        | belowFile => simp [hfind, ReadOutcome.text?] at htext
        | nameTooLong => simp [hfind, ReadOutcome.text?] at htext

/-- The text that is read for a name is in stock, and the identity of its source is one of those by
which it goes or of those of embedded sources. -/
theorem exists_mem_stock_of_resolve {r : Registry} {name text : Text} {file : SourceFile}
    (hresolve : r.resolve name = .ok file) (hread : r.read file = .ok text) :
    ∃ identities, (identities, text) ∈ r.stock ∧
      file.identity ∈ identities ++ r.embeddedIdentities := by
  obtain ⟨hdir, hidentity⟩ := resolve_eq_ok hresolve
  obtain ⟨identities, hstock, hplain⟩ := exists_mem_stock hdir hread
  refine ⟨identities, hstock, ?_⟩
  rcases hidentity with hpackage | hembedded
  · exact List.mem_append_left _ (hplain hpackage)
  · exact List.mem_append_right _ hembedded

end Registry

end ShaderCompose
