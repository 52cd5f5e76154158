import ShaderCompose.Proofs.Expansion.Indices
import ShaderCompose.Proofs.Spelling.Slashes

/-!
# One identity for one file

A cache keeps effects by the identity of their source, and an expansion tells effects apart by it.
Two sources can be one file: their locations open the same place of a file tree, or they have the
same parts in the same package; then the same is read of both (`SameFile.read_eq`).  The identity
resolves what opening a file resolves, except that it keeps two slashes in front of a path; and it
takes the location of a resource as it is written, while looking for the resource skips empty and
single-dot parts and reads backslashes as slashes.

So sources that are one file have one identity as long as they are spelled plainly, and then the
file is loaded once and listed once (`SameFile.identity_canonical`).
-/

set_option autoImplicit false

namespace ShaderCompose

/-! ## Sources that are one file -/

/-- Two sources are one file of a tree, or one resource of a package. -/
inductive FileTree.SameFile (tree : FileTree) (a b : SourceFile) : Prop
  | file {place : List Text} : a.package = none → b.package = none →
      tree.Opens a.workDir a.location place → tree.Opens b.workDir b.location place →
      SameFile tree a b
  | resource {package : Text} : a.package = some package → b.package = some package →
      Path.parts (Text.slashed a.location) = Path.parts (Text.slashed b.location) →
      SameFile tree a b

/-- Whether a source is spelled plainly: a path without exactly two slashes in front, or names with
slashes between them that lead to a resource. -/
def SourceFile.plain (file : SourceFile) : Bool :=
  match file.package with
  | none => Path.root (Path.join (Path.rooted file.workDir) file.location) == ['/']
  | some _ =>
    !file.location.contains '\\' && (Text.pieces '/' file.location).all Path.isPart

/-- A resource is looked for by the parts of its location. -/
theorem Reader.resource?_congr {package location other : Text}
    (h : Path.parts (Text.slashed location) = Path.parts (Text.slashed other)) :
    Reader.resource? package location = Reader.resource? package other := by
  unfold Reader.resource?
  cases Builtin.packageFolder? package with
  | none => rfl
  | some folder =>
    unfold Path.parts Text.slashed at h
    dsimp only
    rw [h]

namespace FileTree.SameFile

variable {tree : FileTree} {a b : SourceFile}

/-- The same is read from sources that are one file. -/
theorem read_eq (h : tree.SameFile a b) (ha : '\x00' ∉ a.location) (hb : '\x00' ∉ b.location)
    {data : List UInt8} (hread : (Reader.disk tree).read a = .bytes data) :
    (Reader.disk tree).read b = .bytes data := by
  unfold Reader.read at hread ⊢
  cases h with
  | @file place hpackage hpackage' hopens hopens' =>
    rw [hpackage] at hread
    rw [hpackage']
    dsimp only at hread ⊢
    rw [if_neg (by simpa using ha)] at hread
    rw [if_neg (by simpa using hb)]
    cases hfind : tree.find a.workDir a.location with
    | file found =>
      obtain rfl : found = data := by simpa [hfind] using hread
      obtain ⟨other, hother, hfile⟩ := find_eq_file_iff.mp hfind
      rw [hother.place_eq, ← hopens.place_eq] at hfile
      rw [find_eq_file_iff.mpr ⟨place, hopens', hfile⟩]
    | _ => simp [hfind] at hread
  | @resource package hpackage hpackage' hparts =>
    rw [hpackage] at hread
    rw [hpackage']
    cases package with
    | nil => simp at hread
    | cons c rest =>
      dsimp only at hread ⊢
      rwa [← Reader.resource?_congr hparts]

/-! ## Their identities -/

/-- Two spellings of one file have one identity exactly if both of them are plain or neither is. -/
theorem identity_eq_iff_of_file (h : tree.SameFile a b) (hpackage : a.package = none) :
    a.identity = b.identity ↔ a.plain = b.plain := by
  cases h with
  | resource hpackage' _ _ => simp [hpackage] at hpackage'
  | file _ hpackage' hopens hopens' =>
    have hparts := hopens.place_eq.symm.trans hopens'.place_eq
    have hroot : ∀ file : SourceFile,
        Path.root (Path.join (Path.rooted file.workDir) file.location) = ['/'] ∨
        Path.root (Path.join (Path.rooted file.workDir) file.location) = ['/', '/'] := fun file =>
      Path.root_of_isAbsolute (Path.isAbsolute_join (Path.isAbsolute_rooted _) _)
    unfold SourceFile.identity SourceFile.plain Path.absolute
    rw [hpackage, hpackage', Path.normalize_eq_iff]
    rcases hroot a with ha | ha <;> rcases hroot b with hb | hb <;> simp [ha, hb, hparts]

/-- Two spellings of one resource have one identity exactly if they have the same location. -/
theorem identity_eq_iff_of_resource (h : tree.SameFile a b) (hpackage : a.package.isSome) :
    a.identity = b.identity ↔ a.location = b.location := by
  cases h with
  | file hnone _ _ _ => simp [hnone] at hpackage
  | resource hsome hsome' _ => simp [SourceFile.identity, hsome, hsome']

/-- The location of a resource that is spelled plainly is its parts with slashes between them. -/
theorem joinWith_parts_of_plain {file : SourceFile} (h : file.plain = true)
    (hpackage : file.package.isSome) :
    Text.joinWith ['/'] (Path.parts (Text.slashed file.location)) = file.location := by
  obtain ⟨package, hsome⟩ := Option.isSome_iff_exists.mp hpackage
  unfold SourceFile.plain at h
  rw [hsome] at h
  obtain ⟨hback, hparts⟩ := Bool.and_eq_true_iff.mp h
  have hclean : '\\' ∉ file.location := by simpa using hback
  have hpieces : Path.parts file.location = Text.pieces '/' file.location := by
    rw [Path.parts_eq_filter, List.filter_eq_self]
    exact List.all_eq_true.mp hparts
  rw [Text.slashed_of_notMem hclean, hpieces, Path.joinWith_pieces_slash]

/-- Sources that are one file and are spelled plainly have one identity. -/
theorem identity_eq (h : tree.SameFile a b) (ha : a.plain = true) (hb : b.plain = true) :
    a.identity = b.identity := by
  cases hpackage : a.package with
  | none => exact (h.identity_eq_iff_of_file hpackage).mpr (by rw [ha, hb])
  | some package =>
    have hsome : a.package.isSome := by simp [hpackage]
    rw [h.identity_eq_iff_of_resource hsome]
    cases h with
    | file hnone _ _ _ => simp [hnone] at hpackage
    | resource _ hsome' hparts =>
      rw [← joinWith_parts_of_plain ha hsome, hparts,
        joinWith_parts_of_plain hb (by simp [hsome'])]

end FileTree.SameFile

/-! ## Loading again -/

namespace Memory

/-- The memory after sources were loaded one after the other, whether or not this succeeds. -/
def loadAll (r : Registry) (files : List SourceFile) (m : Memory) : Memory :=
  files.foldl (fun m file => (m.load r file).2) m

/-- A load keeps the effects that the cache holds. -/
theorem get?_load {m : Memory} {identity : Text} {loaded : Loaded}
    (h : m.cache.get? identity = some loaded) (r : Registry) (file : SourceFile) :
    (m.load r file).2.cache.get? identity = some loaded := by
  rcases hload : m.load r file with ⟨result, after⟩
  cases result with
  | error e =>
    rw [(load_eq_error hload).2.2]
    exact h
  | ok other =>
    rcases load_eq_ok hload with ⟨-, rfl⟩ | ⟨hnone, text, -, -, hcache⟩
    · exact h
    · have hne : identity ≠ file.identity := by
        rintro rfl
        simp [hnone] at h
      rw [hcache, Cache.get?_insert, if_neg hne, h]

/-- What is in the memory stays there while sources are loaded. -/
theorem get?_loadAll {m : Memory} {identity : Text} {loaded : Loaded}
    (h : m.cache.get? identity = some loaded) (r : Registry) (files : List SourceFile) :
    (m.loadAll r files).cache.get? identity = some loaded := by
  induction files generalizing m with
  | nil => exact h
  | cons file rest ih => exact ih (get?_load h r file)

end Memory

/-- Sources that are one file of a tree have the same identity exactly if both of them, or none,
are spelled plainly; sources that are one resource, exactly if their locations are the same.  If
both are spelled plainly, an effect that was loaded for one of them is what is loaded for the other
from then on, without any change, and no expansion lists the two at different places. -/
theorem FileTree.SameFile.identity_canonical {tree : FileTree} {a b : SourceFile}
    (h : tree.SameFile a b) :
    (a.package = none → (a.identity = b.identity ↔ a.plain = b.plain)) ∧
    (a.package.isSome → (a.identity = b.identity ↔ a.location = b.location)) ∧
    (a.plain = true → b.plain = true →
      a.identity = b.identity ∧
      (∀ (r : Registry) (m m' : Memory) (loaded : Loaded), m.load r a = (.ok loaded, m') →
        ∀ others : List SourceFile,
          (m'.loadAll r others).load r b = (.ok loaded, m'.loadAll r others)) ∧
      ∀ (r : Registry) (key : Text) (m m' : Memory) (expanded : Expanded), m.cache.Parsed →
        expand r key m = (.ok expanded, m') → ∀ i j : Nat, expanded.files[i]? = some a →
          expanded.files[j]? = some b → i = j) := by
  refine ⟨h.identity_eq_iff_of_file, h.identity_eq_iff_of_resource, fun ha hb => ?_⟩
  have hidentity := h.identity_eq ha hb
  refine ⟨hidentity, fun r m m' loaded hload others => ?_, ?_⟩
  · have hget := Memory.get?_of_load hload
    rw [hidentity] at hget
    exact Memory.load_of_get? (Memory.get?_loadAll hget r others)
  · intro r key m m' expanded hm hexpand i j hi hj
    obtain ⟨s, hruns, hfiles, -, -⟩ := runs_of_expand_eq_ok hexpand
    have hindexed : Indexed s := hruns.keeps (Indexed.invariant r) (.start hm)
    rw [hfiles] at hi hj
    have hlookup := hindexed.index_file hi
    rw [hidentity, hindexed.index_file hj] at hlookup
    exact (Option.some.inj hlookup).symm

/-- Two files, the first of which includes the second. -/
def sandTree : FileTree :=
  { files := [(["work".toList, "fx".toList, "sand.glsl".toList],
        Text.Utf8.encode "-- main\n#include \"lib/silt.bed\"\ns\n".toList),
      (["work".toList, "fx".toList, "lib".toList, "silt.glsl".toList],
        Text.Utf8.encode "-- bed\nb\n".toList)]
    folders := [["work".toList], ["work".toList, "fx".toList],
      ["work".toList, "fx".toList, "lib".toList]] }

/-- The scene with the two files. -/
def sandScene : Registry := ⟨[], "fx".toList, "glsl".toList, .disk sandTree, "/work".toList⟩

/-- The first file by the path that its name resolves to. -/
def sandFile : SourceFile := sandScene.fileAt "sand".toList "fx/sand.glsl".toList

/-- The first file by a longer path. -/
def sandFile' : SourceFile :=
  sandScene.fileAt "sand".toList "/work//fx/./lib/../sand.glsl".toList

/-- The first file is loaded once and listed once, by whichever of the two paths. -/
theorem FileTree.SameFile.identity_canonical_sand :
    sandTree.SameFile sandFile sandFile' ∧ sandFile.identity = sandFile'.identity ∧
    (∃ loaded m', Memory.load ⟨.empty, [], []⟩ sandScene sandFile = (.ok loaded, m') ∧
      m'.load sandScene sandFile' = (.ok loaded, m')) ∧
    ∃ expanded m', expand sandScene "sand.main".toList ⟨.empty, [], []⟩ = (.ok expanded, m') ∧
      expanded.files.length = 2 ∧ expanded.files[0]? = some sandFile ∧
      ∀ j : Nat, expanded.files[j]? ≠ some sandFile' := by
  have hplace : ∀ file ∈ [sandFile, sandFile'],
      sandTree.Opens file.workDir file.location
        ["work".toList, "fx".toList, "sand.glsl".toList] := by
    intro file hfile
    have hfound : ∀ file ∈ [sandFile, sandFile'],
        sandTree.find file.workDir file.location =
            .file (Text.Utf8.encode "-- main\n#include \"lib/silt.bed\"\ns\n".toList) ∧
          Path.resolvedParts (Path.join (Path.rooted file.workDir) file.location) =
            ["work".toList, "fx".toList, "sand.glsl".toList] := by
      decide +kernel
    obtain ⟨hfind, hparts⟩ := hfound file hfile
    exact hparts ▸ FileTree.opens_of_find hfind
  have hsame : sandTree.SameFile sandFile sandFile' :=
    .file rfl rfl (hplace sandFile (by simp)) (hplace sandFile' (by simp))
  obtain ⟨hidentity, hloads, hexpansions⟩ :=
    hsame.identity_canonical.2.2 (by decide +kernel) (by decide +kernel)
  obtain ⟨loaded, m', hload, -⟩ := exists_of_any
    (Memory.load ⟨.empty, [], []⟩ sandScene sandFile) (fun _ => true) (by decide +kernel)
  obtain ⟨code, s, hrequest, -⟩ := exists_of_any
    (expandKey sandScene 3 [] "sand.main".toList (.start ⟨.empty, [], []⟩)) (fun _ => true)
    (by decide +kernel)
  have hfiles : s.files.length = 2 ∧ s.files[0]? = some sandFile := by
    have hlisted : (expandKey sandScene 3 [] "sand.main".toList
          (.start ⟨.empty, [], []⟩)).2.files.length = 2 ∧
        (expandKey sandScene 3 [] "sand.main".toList
          (.start ⟨.empty, [], []⟩)).2.files[0]? = some sandFile := by
      decide +kernel
    rwa [hrequest] at hlisted
  have hexpand := expand_eq_ok_of_depth 3 hrequest
  refine ⟨hsame, hidentity, ⟨loaded, m', hload, hloads _ _ _ _ hload []⟩, _, _, hexpand,
    hfiles.1, hfiles.2, fun j hj => ?_⟩
  have hzero := hexpansions _ _ _ _ _ (Cache.parsed_of_entries_eq_nil rfl) hexpand 0 j hfiles.2 hj
  rw [← hzero] at hj
  exact absurd (Option.some.inj (hfiles.2.symm.trans hj)) (by decide +kernel)

/-- A resource with slashes and with backslashes in its location. -/
def siltSlashes : SourceFile := ⟨"a".toList, "shaders/glfx.glsl".toList, some "glfx".toList, ['/']⟩

/-- A resource with a backslash in its location, which is the same one. -/
def siltBackslashes : SourceFile :=
  ⟨"b".toList, "shaders\\glfx.glsl".toList, some "glfx".toList, ['/']⟩

/-- Sources that are one resource can have two identities. -/
theorem not_forall_identity_canonical :
    ¬ ∀ (tree : FileTree) (a b : SourceFile), tree.SameFile a b → a.identity = b.identity := by
  intro hall
  have hidentity := hall .empty siltSlashes siltBackslashes
    (.resource rfl rfl (by decide +kernel))
  exact absurd hidentity (by decide +kernel)

end ShaderCompose
