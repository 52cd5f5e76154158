import ShaderCompose.Proofs.Source.Holdings
import ShaderCompose.Proofs.Spelling.Slashes

/-!
# Where a source is looked for

The first declaration for a name decides where its source is looked for: in its package, at the
declared location and then under the base directory, or at the default location.  What is resolved
is the first of these locations at which there is something, and nothing else
(`resolve_first_existing`).  A reader with steady contents that has a source also reads something
there, so a source that was resolved is never reported as not found when it is read.  Declarations
that come later do not matter to a name that is declared already.
-/

set_option autoImplicit false

namespace ShaderCompose

/-- Whether a declaration says where the source is. -/
def Declaration.Placed (d : Declaration) : Prop := d.embedded = true ∨ d.location.getD [] ≠ []

/-- A reader whose contents are all there and stay as they are: a table in which nothing is missing,
or a file system. -/
def Reader.Settled : Reader → Prop
  | .table shelf => ∀ entry ∈ shelf, entry.2 ≠ .missing
  | .disk _ => True
  | _ => False

/-- A settled reader reads something wherever it has a source. -/
theorem Reader.Settled.read_ne_missing {reader : Reader} (h : reader.Settled) {file : SourceFile}
    (hhas : reader.has file = true) (hpackage : file.package = none) :
    reader.read file ≠ .missing := by
  cases reader with
  | table shelf =>
    obtain ⟨entry, hentry, hlocation⟩ := List.any_eq_true.mp hhas
    have hsome : (shelf.lookup file.location).isSome := by
      rw [Option.isSome_iff_ne_none, Ne, List.lookup_eq_none_iff]
      intro hnone
      have hne := hnone entry hentry
      simp [beq_iff_eq.mp hlocation] at hne
    obtain ⟨content, hlookup⟩ := Option.isSome_iff_exists.mp hsome
    have hcontent : content ≠ .missing := h (file.location, content) (mem_of_lookup hlookup)
    simpa [Reader.read, hlookup] using hcontent
  | disk tree =>
    unfold Reader.has at hhas
    unfold Reader.read
    simp only [hpackage] at hhas ⊢
    by_cases hnul : file.location.contains '\x00' = true
    · rw [if_pos hnul] at hhas
      exact absurd hhas Bool.false_ne_true
    · rw [if_neg hnul] at hhas ⊢
      cases hfind : tree.find file.workDir file.location <;> simp [hfind] at hhas ⊢
  | function shelf => exact absurd h id
  | blank => exact absurd h id

namespace Registry

/-- The locations at which a source that is not embedded is looked for, in this order. -/
def candidates (r : Registry) (name : Text) : List Text :=
  match (r.findDeclaration name).bind Declaration.location with
  | some (c :: rest) => [c :: rest, Path.normalize (Path.join r.baseDir (c :: rest))]
  | _ => [r.defaultLocation name]

/-- The first declaration for a name makes no package of it. -/
def Outside (r : Registry) (name : Text) : Prop :=
  ∀ d, r.findDeclaration name = some d → d.embedded = false

section

variable {r : Registry} {name requested : Text}

/-! ## The first candidate -/

/-- The first file that exists is the one that the reader has behind others that it does not
have. -/
theorem firstExisting_eq_ok_iff {detail : Text} {files : List SourceFile} {file : SourceFile} :
    r.firstExisting name files detail = .ok file ↔ ∃ before after,
      files = before ++ file :: after ∧ r.reader.has file = true ∧
        ∀ other ∈ before, r.reader.has other = false := by
  have hfind : r.firstExisting name files detail = .ok file ↔
      files.find? r.reader.has = some file := by
    unfold firstExisting
    rw [Reader.sourceReader_has]
    cases files.find? r.reader.has <;> simp
  rw [hfind, List.find?_eq_some_iff_append]
  simp only [Bool.not_eq_true']
  constructor
  · rintro ⟨hhas, before, after, hsplit, hbefore⟩
    exact ⟨before, after, hsplit, hhas, hbefore⟩
  · rintro ⟨before, after, hsplit, hhas, hbefore⟩
    exact ⟨hhas, before, after, hsplit, hbefore⟩

/-- No file exists if the reader has none of them, and then the source is not found under its
name. -/
theorem firstExisting_eq_error_iff {detail : Text} {files : List SourceFile} :
    (∃ shown, r.firstExisting name files detail = .error (.effect (.sourceNotFound name shown))) ↔
      ∀ file ∈ files, r.reader.has file = false := by
  have hfind : (∃ shown, r.firstExisting name files detail =
      .error (.effect (.sourceNotFound name shown))) ↔ files.find? r.reader.has = none := by
    unfold firstExisting
    rw [Reader.sourceReader_has]
    cases files.find? r.reader.has <;> simp
  rw [hfind, List.find?_eq_none]
  simp only [Bool.not_eq_true]

/-- A source that is embedded is resolved without looking for it. -/
theorem resolve_of_embedded {d : Declaration} {package : Text}
    (hfind : r.findDeclaration (Text.slashed requested) = some d)
    (hpackage : d.package = some (.text package)) :
    r.resolve requested =
      .ok ⟨Text.slashed requested, d.location.getD [], some package, r.workDir⟩ := by
  obtain ⟨label, location, owner⟩ := d
  obtain rfl : owner = some (.text package) := hpackage
  unfold Text.slashed at hfind
  unfold resolve
  simp only [hfind]
  rfl

/-- Every other source is the first candidate that exists. -/
theorem resolve_of_outside (h : r.Outside (Text.slashed requested)) :
    ∃ detail, r.resolve requested = r.firstExisting (Text.slashed requested)
      ((r.candidates (Text.slashed requested)).map (r.fileAt (Text.slashed requested))) detail := by
  unfold candidates
  cases hfind : r.findDeclaration (Text.slashed requested) with
  | none =>
    unfold Text.slashed at hfind
    unfold resolve
    simp only [hfind]
    exact ⟨_, rfl⟩
  | some d =>
    have houtside := h d hfind
    obtain ⟨label, location, package⟩ := d
    obtain rfl : package = none := by simpa [Declaration.embedded] using houtside
    unfold Text.slashed at hfind
    unfold resolve
    rcases location with _ | _ | ⟨c, rest⟩ <;> simp only [hfind] <;> exact ⟨_, rfl⟩

/-! ## Reading what was found -/

/-- Reading a source says that it is not found. -/
def Lacks (r : Registry) (file : SourceFile) : Prop :=
  ∃ missing detail, r.read file = .error (.effect (.sourceNotFound missing detail))

/-- This is said of sources outside of packages for which the reader has nothing. -/
theorem lacks_iff {file : SourceFile} :
    r.Lacks file ↔ file.package = none ∧ r.reader.read file = .missing := by
  unfold Lacks read
  rw [Reader.sourceReader_read]
  cases hread : r.reader.read file with
  | missing => cases hpackage : file.package <;> simp
  | failed f => by_cases hkind : f.kind.isInputOutput = true <;> simp [hkind]
  | other kind => simp
  | text t => simp [ReadOutcome.decode]
  | bytes data =>
    simp only [ReadOutcome.decode]
    cases Text.Utf8.decode (Text.Utf8.dropMark data) <;> simp

/-! ## Later declarations -/

/-- Declarations that are made one after the other are listed behind those from before. -/
theorem foldl_declare_eq (more : List Declaration) :
    more.foldl declare r = { r with declarations := r.declarations ++ more } := by
  induction more generalizing r with
  | nil => simp
  | cons d rest ih =>
    rw [List.foldl_cons, ih]
    simp [declare]

/-- A name that is declared keeps its first declaration when more are added. -/
theorem findDeclaration_foldl_declare (more : List Declaration)
    (h : (r.findDeclaration name).isSome) :
    (more.foldl declare r).findDeclaration name = r.findDeclaration name := by
  obtain ⟨d, hfind⟩ := Option.isSome_iff_exists.mp h
  rw [foldl_declare_eq]
  unfold findDeclaration at *
  rw [List.find?_append, hfind, Option.some_or]

/-- A name that is declared resolves as before when further declarations are made. -/
theorem resolve_foldl_declare (more : List Declaration)
    (h : (r.findDeclaration (Text.slashed requested)).isSome) :
    (more.foldl declare r).resolve requested = r.resolve requested := by
  have hfind := findDeclaration_foldl_declare more h
  rw [foldl_declare_eq] at hfind ⊢
  unfold Text.slashed at hfind
  unfold resolve
  dsimp only
  rw [hfind]
  rfl

/-! ## The whole of it -/

/-- An embedded source is what its declaration says.  Any other source is the first candidate that
exists, and is reported as not found exactly if there is none; a settled reader then has a content
for it.  A declared name is resolved as before when more declarations are added. -/
theorem resolve_first_existing (r : Registry) (requested : Text) :
    (∀ d package, r.findDeclaration (Text.slashed requested) = some d →
      d.package = some (.text package) →
      r.resolve requested =
        .ok ⟨Text.slashed requested, d.location.getD [], some package, r.workDir⟩ ∧
      ¬r.Lacks ⟨Text.slashed requested, d.location.getD [], some package, r.workDir⟩) ∧
    (r.Outside (Text.slashed requested) →
      (∀ file, r.resolve requested = .ok file ↔ ∃ before location after,
        r.candidates (Text.slashed requested) = before ++ location :: after ∧
        file = r.fileAt (Text.slashed requested) location ∧ r.reader.has file = true ∧
        ∀ other ∈ before, r.reader.has (r.fileAt (Text.slashed requested) other) = false) ∧
      ((∃ shown, r.resolve requested =
          .error (.effect (.sourceNotFound (Text.slashed requested) shown))) ↔
        ∀ location ∈ r.candidates (Text.slashed requested),
          r.reader.has (r.fileAt (Text.slashed requested) location) = false) ∧
      (r.reader.Settled → ∀ file, r.resolve requested = .ok file → ¬r.Lacks file)) ∧
    ((∃ d ∈ r.declarations, d.isFor (Text.slashed requested) = true) → ∀ more : List Declaration,
      (more.foldl declare r).resolve requested = r.resolve requested) := by
  refine ⟨fun d package hfind hpackage => ⟨resolve_of_embedded hfind hpackage, ?_⟩,
    fun houtside => ?_, fun hdeclared more => ?_⟩
  · rw [lacks_iff]
    exact fun hlacks => Option.some_ne_none package hlacks.1
  · obtain ⟨detail, hresolve⟩ := resolve_of_outside houtside
    have hok : ∀ file, r.resolve requested = .ok file ↔ ∃ before location after,
        r.candidates (Text.slashed requested) = before ++ location :: after ∧
        file = r.fileAt (Text.slashed requested) location ∧ r.reader.has file = true ∧
        ∀ other ∈ before, r.reader.has (r.fileAt (Text.slashed requested) other) = false := by
      intro file
      rw [hresolve, firstExisting_eq_ok_iff]
      constructor
      · rintro ⟨before, after, hsplit, hhas, hbefore⟩
        obtain ⟨front, back, hcandidates, rfl, hback⟩ := List.map_eq_append_iff.mp hsplit
        obtain ⟨location, rest, rfl, rfl, rfl⟩ := List.map_eq_cons_iff.mp hback
        exact ⟨front, location, rest, hcandidates, rfl, hhas, by simpa using hbefore⟩
      · rintro ⟨before, location, after, hcandidates, rfl, hhas, hbefore⟩
        exact ⟨_, _, by rw [hcandidates, List.map_append, List.map_cons], hhas,
          by simpa using hbefore⟩
    refine ⟨hok, ?_, fun hsettled file hfile => ?_⟩
    · rw [hresolve, firstExisting_eq_error_iff, List.forall_mem_map]
    · obtain ⟨before, location, after, -, rfl, hhas, -⟩ := (hok file).mp hfile
      rw [lacks_iff]
      exact fun hlacks => hsettled.read_ne_missing hhas rfl hlacks.2
  · refine resolve_foldl_declare more ?_
    unfold findDeclaration
    rw [List.find?_isSome]
    exact hdeclared

end

/-- An embedded source. -/
def bayFoam : Declaration :=
  ⟨"lib/foam".toList, some "foam.glsl".toList, some (.text "glfx.shaders".toList)⟩

/-- An embedded source, a declared file that is found under the base directory only, and a source
that is declared without a location and is nowhere. -/
def bayScene : Registry :=
  ⟨[bayFoam, ⟨"noise".toList, some "decl/noise.glsl".toList, none⟩, ⟨"tide".toList, none, none⟩],
    "fx".toList, "glsl".toList,
    .table [("fx/decl/noise.glsl".toList, .text "-- hash\nn\n".toList)], "/work".toList⟩

/-- The embedded source is not looked for, the declared file is read, nothing is at the default
location of the last name, and a further declaration comes too late for the declared file. -/
theorem resolve_first_existing_bay :
    (∃ file, bayScene.resolve "lib/foam".toList = .ok file ∧
      file.package = some "glfx.shaders".toList ∧ ¬bayScene.Lacks file) ∧
    (∃ file, bayScene.resolve "sub\\noise".toList = .ok file ∧
      file.location = "fx/decl/noise.glsl".toList ∧ ¬bayScene.Lacks file) ∧
    (∃ shown, bayScene.resolve "tide".toList =
      .error (.effect (.sourceNotFound "tide".toList shown))) ∧
    (bayScene.declare ⟨"sub/noise".toList, some "fx/decl/noise.glsl".toList, none⟩).resolve
      "sub/noise".toList = bayScene.resolve "sub/noise".toList := by
  have houtside : ∀ name ∈ ["sub/noise".toList, "tide".toList], bayScene.Outside name := by
    have hplain : ∀ name ∈ ["sub/noise".toList, "tide".toList],
        ((bayScene.findDeclaration name).map Declaration.embedded).getD false = false := by
      decide +kernel
    intro name hname d hfind
    have hembedded := hplain name hname
    rwa [hfind] at hembedded
  refine ⟨?_, ?_, ?_, ?_⟩
  · have hfor : bayFoam.isFor "lib/foam".toList = true := by decide +kernel
    have hfind : bayScene.findDeclaration "lib/foam".toList = some bayFoam :=
      List.find?_cons_of_pos (p := (Declaration.isFor · "lib/foam".toList)) hfor
    obtain ⟨hfile, hread⟩ := (resolve_first_existing bayScene "lib/foam".toList).1 _ _ hfind rfl
    exact ⟨_, hfile, rfl, hread⟩
  · obtain ⟨hok, -, hread⟩ := (resolve_first_existing bayScene "sub\\noise".toList).2.1
      (houtside _ (by decide))
    have hfile := (hok (bayScene.fileAt "sub/noise".toList "fx/decl/noise.glsl".toList)).mpr
      ⟨["decl/noise.glsl".toList], _, [], by decide +kernel, rfl, by decide +kernel,
        by decide +kernel⟩
    have hsettled : bayScene.reader.Settled := by
      intro entry hentry
      rw [List.mem_singleton.mp hentry]
      exact ReadOutcome.noConfusion
    exact ⟨_, hfile, rfl, hread hsettled _ hfile⟩
  · exact ((resolve_first_existing bayScene "tide".toList).2.1
      (houtside _ (by decide))).2.1.mpr (by decide +kernel)
  · exact (resolve_first_existing bayScene "sub/noise".toList).2.2
      ⟨_, .tail _ List.mem_cons_self, by decide +kernel⟩ [_]

end Registry

end ShaderCompose
