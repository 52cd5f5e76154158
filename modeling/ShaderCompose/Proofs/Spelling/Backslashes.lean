import ShaderCompose.Proofs.Expansion.LineBreaks
import ShaderCompose.Proofs.Spelling.IncludeLines
import ShaderCompose.Proofs.Spelling.Lockstep

/-!
# Backslashes in include keys

An include key is joined to the directory of the effect and normalised before its backslashes count
as slashes, so it can make a difference how they are written.  It makes none for steady keys: they
can be normalised in both orders, and their parts with backslashes fall into nothing but names, so
that both spellings lead to the same effect key from every directory.  If only names without
directories are declared, it is enough that both lead to the same place, which they do for loose
keys without blanks.

With such keys, a composition does not change when slashes are put in for the backslashes in the
keys of all include lines.
-/

set_option autoImplicit false

namespace ShaderCompose

/-! ## Keys with backslashes -/

namespace Text

/-- A text without blanks. -/
def Unblank (t : Text) : Prop := ∀ c ∈ t, isBlank c = false

instance (t : Text) : Decidable t.Unblank := List.decidableBAll (fun c => isBlank c = false) t

/-- With slashes for its backslashes, a text without blanks is plain. -/
theorem Unblank.plain_slashed {t : Text} (h : t.Unblank) : (slashed t).Plain := by
  intro c hc
  refine ⟨?_, fun hback => backslash_notMem_slashed t (hback ▸ hc)⟩
  rcases mem_of_mem_slashed hc with hmem | rfl
  · exact h c hmem
  · decide

/-- Backslashes that have become slashes are gone for good. -/
theorem slashed_slashed (t : Text) : slashed (slashed t) = slashed t :=
  slashed_of_notMem (backslash_notMem_slashed t)

/-- Stripping a text and putting slashes in for its backslashes can be done in either order. -/
theorem strip_slashed (t : Text) : strip (slashed t) = slashed (strip t) := by
  have hblank : (isBlank ∘ fun c => if c = '\\' then '/' else c) = isBlank := by
    funext c
    rw [Function.comp_apply]
    split
    · next hback => rw [hback]; decide
    · rfl
  have hdrop : ∀ u : Text, (slashed u).dropWhile isBlank = slashed (u.dropWhile isBlank) := by
    intro u
    unfold slashed replaceChar
    rw [List.dropWhile_map, hblank]
  have hreverse : ∀ u : Text, (slashed u).reverse = slashed u.reverse := fun u =>
    List.map_reverse.symm
  unfold strip stripEnd stripStart dropEndWhile
  rw [hdrop, hreverse, hdrop, hreverse]

end Text

namespace Include

/-- The key leads to the same place whether it is normalised before or after slashes are put in for
its backslashes. -/
def Even (key : Text) : Prop :=
  Path.normalize (Text.slashed (Path.normalize key)) = Path.normalize (Text.slashed key)

/-- A key that is even, whose parts with backslashes fall into nothing but names. -/
def Steady (key : Text) : Prop := Even key ∧ Path.FallIntoNames (Path.parts key)

/-- A key that is even, without parts that start with a backslash, and whose last part is a name. -/
def Loose (key : Text) : Prop :=
  Even key ∧ Path.NoneLeads (Path.parts key) ∧
    Path.isName (Path.lastPart (Text.slashed key)) = true

instance (key : Text) : Decidable (Steady key) :=
  inferInstanceAs (Decidable (Path.normalize (Text.slashed (Path.normalize key)) =
    Path.normalize (Text.slashed key) ∧ Path.FallIntoNames (Path.parts key)))

instance (key : Text) : Decidable (Loose key) :=
  inferInstanceAs (Decidable (Path.normalize (Text.slashed (Path.normalize key)) =
    Path.normalize (Text.slashed key) ∧ Path.NoneLeads (Path.parts key) ∧
      Path.isName (Path.lastPart (Text.slashed key)) = true))

variable {dir dir' key : Text}

/-- A steady key leads to the same effect key in both spellings, from any directory. -/
theorem Steady.relativeTo (h : Steady key) (hdir : '\\' ∉ dir)
    (hsame : Path.normalize dir' = Path.normalize dir) :
    Text.slashed (relativeTo dir key) = relativeTo dir' (Text.slashed key) := by
  obtain ⟨heven, hfall⟩ := h
  have hparts : Path.FallIntoNames (Path.parts (Path.join dir key)) := by
    intro part hpart hback
    cases habsolute : Path.isAbsolute key with
    | true =>
      rw [Path.join_of_isAbsolute habsolute] at hpart
      exact hfall part hpart hback
    | false =>
      rw [Path.parts_join habsolute] at hpart
      rcases List.mem_append.mp hpart with hpart | hpart
      · exact absurd (Path.mem_of_mem_parts hpart hback) hdir
      · exact hfall part hpart hback
  unfold Include.relativeTo
  rw [← Path.normalize_slashed_normalize hparts,
    Path.normalize_slashed_join hdir hfall.noneLeads heven,
    Path.normalize_join_congr_left hsame]

/-- If the last part is a name with slashes for backslashes, then it is a name before that. -/
theorem isName_lastPart_of_slashed (h : Path.isName (Path.lastPart (Text.slashed key)) = true) :
    Path.isName (Path.lastPart key) = true := by
  rw [Path.lastPart_slashed] at h
  have hne : ∀ last : Text, Path.isName (Path.lastPart (Text.slashed last)) = false →
      Path.lastPart key ≠ last := by
    intro last hlast heq
    rw [heq, hlast] at h
    exact absurd h (by decide)
  rw [Path.isName_iff]
  exact ⟨hne _ (by decide), hne _ (by decide), hne _ (by decide)⟩

/-- A loose key leads to the same place in both spellings, from any directory, and to the same last
part. -/
theorem Loose.relativeTo (h : Loose key) (hdir : '\\' ∉ dir)
    (hsame : Path.normalize dir' = Path.normalize dir) :
    Path.normalize (Text.slashed (relativeTo dir key)) = relativeTo dir' (Text.slashed key) ∧
      Path.lastPart (Text.slashed (relativeTo dir key)) = Path.lastPart (Text.slashed key) ∧
      Path.lastPart (relativeTo dir' (Text.slashed key)) = Path.lastPart (Text.slashed key) := by
  obtain ⟨heven, hleads, hname⟩ := h
  have hjoin : ∀ base path : Text, Path.lastPart (Path.join base path) = Path.lastPart path := by
    intro base path
    cases habsolute : Path.isAbsolute path with
    | true => rw [Path.join_of_isAbsolute habsolute]
    | false => exact Path.lastPart_join habsolute base
  have hlast : ∀ base path : Text, Path.isName (Path.lastPart path) = true →
      Path.lastPart (Include.relativeTo base path) = Path.lastPart path := by
    intro base path hpath
    rw [← hjoin base path] at hpath
    rw [Include.relativeTo, Path.lastPart_normalize hpath, hjoin]
  refine ⟨?_, ?_, hlast dir' _ hname⟩
  · unfold Include.relativeTo
    rw [Path.normalize_slashed_join hdir hleads heven, Path.normalize_join_congr_left hsame]
  · rw [Path.lastPart_slashed, hlast dir key (isName_lastPart_of_slashed hname),
      ← Path.lastPart_slashed]

end Include

/-! ## Both spellings in a registry -/

section

variable {r : Registry} {dir dir' key : Text}

/-- A key is tidied to the same whether slashes are put in before or not. -/
theorem EffectKey.tidy_slashed (key : Text) : tidy (Text.slashed key) = tidy key := by
  show Text.slashed (Text.strip (Text.slashed key)) = Text.slashed (Text.strip key)
  rw [Text.strip_slashed, Text.slashed_slashed]

/-- The directory of a tidy key has no backslashes. -/
theorem backslash_notMem_directory_tidy (key : Text) :
    '\\' ∉ Path.directory (EffectKey.tidy key) :=
  fun hmem => EffectKey.backslash_notMem_tidy key (Path.mem_of_mem_directory hmem)

/-- A steady key and its spelling with slashes are keys for the same section, from any spelling of a
directory without backslashes. -/
theorem Include.Steady.sameKey (h : Include.Steady key) (hdir : '\\' ∉ dir)
    (hsame : Path.normalize dir' = Path.normalize dir) :
    r.SameKey (fun dir => '\\' ∉ dir) (Include.relativeTo dir key)
      (Include.relativeTo dir' (Text.slashed key)) := by
  apply Registry.sameKey_of_tidy_eq
  · rw [← h.relativeTo hdir hsame, EffectKey.tidy_slashed]
  · exact backslash_notMem_directory_tidy _

/-- A key without blanks that is relative to a plain directory has no blanks. -/
theorem plain_slashed_relativeTo (hdir : dir.Plain) (hkey : key.Unblank) :
    (Text.slashed (Include.relativeTo dir key)).Plain := by
  apply Text.Unblank.plain_slashed
  intro c hc
  rcases Path.mem_of_mem_normalize hc with hc | rfl | rfl
  · rcases Path.mem_of_mem_join hc with hc | hc | rfl
    · exact (hdir c hc).1
    · exact hkey c hc
    · decide
  · decide
  · decide

/-- A key that is plain with slashes for its backslashes is tidied to just this spelling. -/
theorem EffectKey.tidy_of_plain_slashed (h : (Text.slashed key).Plain) :
    tidy key = Text.slashed key := by
  show Text.slashed (Text.strip key) = Text.slashed key
  rw [← Text.strip_slashed, Text.strip_of_plain h]

/-- Where no name with a directory is declared, the same holds of loose keys without blanks. -/
theorem Include.Loose.sameKey (hr : r.Undivided) (hunblank : key.Unblank)
    (h : '\\' ∈ key → Include.Loose key) (hdir : dir.Plain) (hdir' : dir'.Plain)
    (hsame : Path.normalize dir' = Path.normalize dir) :
    r.SameKey Text.Plain (Include.relativeTo dir key)
      (Include.relativeTo dir' (Text.slashed key)) := by
  have hclean : '\\' ∉ dir := fun hmem => (hdir _ hmem).2 rfl
  have hplain := plain_slashed_relativeTo hdir hunblank
  have hplain' : (Include.relativeTo dir' (Text.slashed key)).Plain :=
    Path.plain_normalize (Path.plain_join hdir' hunblank.plain_slashed)
  have htidy := EffectKey.tidy_of_plain_slashed hplain
  have htidy' := EffectKey.tidy_of_plain hplain'
  have husable : (Path.directory (EffectKey.tidy (Include.relativeTo dir key))).Plain := by
    rw [htidy]
    exact hplain.mono fun c => Path.mem_of_mem_directory
  by_cases hback : '\\' ∈ key
  · obtain ⟨hplace, hlast, hlast'⟩ := (h hback).relativeTo hclean hsame
    have hname := (h hback).2.2
    rw [← hlast] at hname
    have hparts : Path.lastPart (EffectKey.tidy (Include.relativeTo dir' (Text.slashed key))) =
        Path.lastPart (EffectKey.tidy (Include.relativeTo dir key)) := by
      rw [htidy, htidy', hlast, hlast']
    refine Registry.sameKey_of_tidy hparts ?_ ?_ husable ?_
    · rw [htidy, htidy']
      apply Path.normalize_directory_congr
      · rw [← hplace, Path.normalize_normalize]
      · rw [hlast, hlast']
      · exact hname
    · intro parts parts' hsplit hsplit'
      exact hr.findDeclaration_source hparts hsplit hsplit'
    · rw [htidy']
      exact hplain'.mono fun c => Path.mem_of_mem_directory
  · -- without backslashes the two keys are the same
    have hkeys : Include.relativeTo dir' (Text.slashed key) = Include.relativeTo dir key := by
      rw [Text.slashed_of_notMem hback]
      exact Path.normalize_join_congr_left hsame key
    exact Registry.sameKey_of_tidy_eq (by rw [hkeys]) husable

end

/-! ## Readers with slashes in include keys -/

/-- Contents without a text that are the same, or texts of which the second has slashes for the
backslashes in the keys of the include lines of the first. -/
inductive ReadOutcome.Slashed : ReadOutcome → ReadOutcome → Prop
  | same {content : ReadOutcome} : content.text? = none → Slashed content content
  | texts {content other : ReadOutcome} {t u : Text} : content.text? = some t →
      other.text? = some u → Text.splitLines u = (Text.splitLines t).map Include.slashKey →
        Slashed content other

/-- Readers that have the same sources, the second one with slashes in the keys of include lines. -/
structure Reader.Slashed (reader other : Reader) : Prop where
  has (file : SourceFile) : other.has file = reader.has file
  read (file : SourceFile) : (reader.read file).Slashed (other.read file)

/-- Tables with slashed contents at the same locations are slashed readers. -/
theorem Reader.slashed_of_table {shelf other : Shelf}
    (h : List.Forall₂ (fun a b => b.1 = a.1 ∧ ReadOutcome.Slashed a.2 b.2) shelf other) :
    (Reader.table shelf).Slashed (.table other) where
  has := Reader.has_table h
  read := Reader.read_table (.same rfl) h

section

variable {r : Registry} {other : Reader}

/-- What the second reader gives is read with the same outcome, and its lines have slashes in the
keys. -/
theorem Reader.Slashed.read_lines (h : r.reader.Slashed other) (file : SourceFile) :
    Parallel (fun t u => Text.splitLines u = (Text.splitLines t).map Include.slashKey) (r.read file)
      (({ r with reader := other } : Registry).read file) := by
  have hread := h.read file
  apply Registry.read_parallel
  generalize r.reader.read file = content at hread
  generalize other.read file = content' at hread
  cases hread with
  | same hnone => exact .inl ⟨rfl, fun _ htext => by simp [hnone] at htext⟩
  | texts ht hu hlines => exact .inr ⟨_, _, ht, hu, hlines⟩

/-- The blocks of a text with slashes in its include keys, if a condition holds for the keys. -/
theorem blocksOf_respelled {text text' : Text} {allowed : Text → Prop}
    (hlines : Text.splitLines text' = (Text.splitLines text).map Include.slashKey)
    (hkeys : ∀ key ∈ includeKeysOf text, allowed key) :
    List.Forall₂ (Block.Respelled fun key key' => key' = Text.slashed key ∧ allowed key)
      (blocksOf text) (blocksOf text') := by
  rw [blocksOf_slashKey hlines, List.forall₂_map_right_iff, List.forall₂_same]
  intro block hblock
  refine ⟨rfl, rfl, ?_⟩
  show List.Forall₂ _ block.body (block.body.map Include.slashKey)
  rw [List.forall₂_map_right_iff, List.forall₂_same]
  intro line hline
  have hslashed := Include.key?_slashKey line
  cases hkey : Include.key? line with
  | none =>
    have hkept : Include.slashKey line = line := by simp [Include.slashKey, hkey]
    rw [hkept]
    exact .kept hkey
  | some key =>
    rw [hkey] at hslashed
    have hmem : key ∈ includeKeysOf text :=
      List.mem_flatMap.mpr ⟨block, hblock, List.mem_filterMap.mpr ⟨line, hline, hkey⟩⟩
    exact .included hkey hslashed ⟨rfl, hkeys key hmem⟩

/-- A reader with slashes in its include keys has keys in another spelling, if the two spellings of
a key are keys for the same section from all directories that the expansion comes to. -/
theorem Reader.Slashed.respelled (h : r.reader.Slashed other) {usable allowed : Text → Prop}
    (hallowed : ∀ text ∈ r.reader.holdings, ∀ key ∈ includeKeysOf text, allowed key)
    (hkeys : ∀ {dir dir' key}, allowed key → usable dir → usable dir' →
      Path.normalize dir' = Path.normalize dir →
        r.SameKey usable (Include.relativeTo dir key)
          (Include.relativeTo dir' (Text.slashed key))) :
    r.Respelled other usable fun key key' => key' = Text.slashed key ∧ allowed key where
  has := h.has
  read {name file file'} hresolve hplace := by
    have hread := (h.read_lines file).agree.trans_eq (hplace.read rfl)
    generalize hown : r.read file = result at hread ⊢
    generalize ({ r with reader := other } : Registry).read file' = result' at hread ⊢
    cases hread with
    | error hsame => exact .error hsame
    | @ok text text' hlines =>
      have hmem : text ∈ r.reader.holdings :=
        Registry.mem_holdings_of_workDir (Registry.resolve_eq_ok hresolve).1 hown
      exact .ok (blocksOf_respelled hlines (hallowed text hmem))
  keys {dir dir' key key'} husable husable' hdir hkey := by
    obtain ⟨rfl, hkey⟩ := hkey
    exact hkeys hkey husable husable' hdir

/-- Compositions with the same code and source files with the same identities. -/
def Composed.SameFiles (near far : Composed) : Prop :=
  far.code = near.code ∧
    far.files.map SourceFile.identity = near.files.map SourceFile.identity

/-- If the keys on include lines are in another spelling that stands for the same sections, then
compositions agree in their code and in the identities of their files. -/
theorem Registry.Respelled.compose {usable : Text → Prop} {respells : Text → Text → Prop}
    (h : r.Respelled other usable respells) {key : Text}
    (husable : usable (Path.directory (EffectKey.tidy key))) (vars : Composer.Vars) :
    Agree Composed.SameFiles
      (Composer.compose r (.text key) vars ⟨.empty, [], []⟩).1
      (Composer.compose { r with reader := other } (.text key) vars ⟨.empty, [], []⟩).1 := by
  have hkeys : r.SameKey usable key key := Registry.sameKey_of_tidy_eq rfl husable
  rw [compose_text, compose_text]
  refine (Agree.refl _).bind ?_
  rintro _ _ -
  have hcomposed : ∀ m n : Memory, m.cache = .empty → n.cache = .empty →
      Agree Composed.SameFiles
        ((expand r key m).1.map fun expanded =>
          ⟨key, renderCode expanded.code, expanded.files, expanded.warnings⟩)
        ((expand { r with reader := other } key n).1.map fun expanded =>
          ⟨key, renderCode expanded.code, expanded.files, expanded.warnings⟩) := by
    intro m n hm hn
    have hcache : m.cache.Respelled respells [] n.cache := by
      intro identity _
      rw [hm, hn]
      exact .none
    have hparsed : m.cache.Parsed := Cache.parsed_of_entries_eq_nil (by rw [hm]; rfl)
    refine (expand_lockstep h hparsed hcache hkeys).map ?_
    rintro near far ⟨hcode, hfiles⟩
    exact ⟨congrArg renderCode hcode, hfiles⟩
  refine (hcomposed _ _ rfl rfl).bind ?_
  rintro near far ⟨hcode, hfiles⟩
  exact Composer.fillIn_agree hcode ⟨hcode, hfiles⟩ (fun _ => ⟨rfl, hfiles⟩) vars

end

/-- Let slashes be put in for the backslashes in the keys of all include lines.  If all include keys
are steady, then a composition gives the same code and source files with the same identities as
before, or fails with an error of the same class.  So it does if only names without directories are
declared, there are no blanks in the keys, and those with backslashes are loose. -/
theorem compose_slashed_includes (r : Registry) (other : Reader)
    (hreader : r.reader.Slashed other) (key : Text)
    (hkeys : (∀ text ∈ r.reader.holdings, ∀ included ∈ includeKeysOf text,
        Include.Steady included) ∨
      (r.Undivided ∧ key.Unblank ∧ ∀ text ∈ r.reader.holdings, ∀ included ∈ includeKeysOf text,
        included.Unblank ∧ ('\\' ∈ included → Include.Loose included)))
    (vars : Composer.Vars) :
    Agree Composed.SameFiles
      (Composer.compose r (.text key) vars ⟨.empty, [], []⟩).1
      (Composer.compose { r with reader := other } (.text key) vars ⟨.empty, [], []⟩).1 := by
  rcases hkeys with hsteady | ⟨hundivided, hunblank, hloose⟩
  · have hr := hreader.respelled hsteady fun hkey hdir _ hsame => hkey.sameKey hdir hsame
    exact hr.compose (backslash_notMem_directory_tidy key) vars
  · have hr := hreader.respelled hloose fun hkey hdir hdir' hsame =>
      Include.Loose.sameKey hundivided hkey.1 hkey.2 hdir hdir' hsame
    have hplain := hunblank.plain_slashed
    refine hr.compose ?_ vars
    rw [EffectKey.tidy_of_plain_slashed hplain]
    exact hplain.mono fun c => Path.mem_of_mem_directory

/-- Files that lead out of a directory and into another one with backslashes in all kinds of
keys. -/
def coveShelf : Shelf :=
  [("fx/sub/cove.glsl".toList, .text "-- main\n#include \"..\\lib\\noise.hash\"\na\n".toList),
    ("fx/lib/noise.glsl".toList, .text "-- hash\n#include <.\\deep/tide.rise> \\\nn\n".toList),
    ("fx/lib/deep/tide.glsl".toList, .bytes "-- rise\n#include ..\\\\foam.top \\\nt".toUTF8.toList),
    ("fx/lib/foam.glsl".toList, .text "-- top\nf\n".toList)]

/-- The files with slashes in the keys of include lines; the other backslashes are as they were. -/
def coveSlashes : Shelf :=
  [("fx/sub/cove.glsl".toList, .text "-- main\n#include \"../lib/noise.hash\"\na\n".toList),
    ("fx/lib/noise.glsl".toList, .text "-- hash\n#include <./deep/tide.rise> \\\nn\n".toList),
    ("fx/lib/deep/tide.glsl".toList, .text "-- rise\n#include ..//foam.top \\\nt".toList),
    ("fx/lib/foam.glsl".toList, .text "-- top\nf\n".toList)]

/-- A source that is declared under its name alone, and is not asked for. -/
def coveScene : Registry :=
  ⟨[⟨"wave".toList, some "decl/wave.glsl".toList, none⟩], "fx".toList, "glsl".toList,
    .table coveShelf, "/work".toList⟩

/-- A file that leads down to a source that is declared under a name with a directory. -/
def strandShelf : Shelf :=
  [("fx/strand.glsl".toList, .text "-- main\n#include \"./lib\\wave.swell\"\ns\n".toList),
    ("decl/wave.glsl".toList, .text "-- swell\nw\n".toList)]

/-- The files with slashes in the key that leads down. -/
def strandSlashes : Shelf :=
  [("fx/strand.glsl".toList, .text "-- main\n#include \"./lib/wave.swell\"\ns\n".toList),
    ("decl/wave.glsl".toList, .text "-- swell\nw\n".toList)]

/-- The source is declared under a name with a directory. -/
def strandScene : Registry :=
  ⟨[⟨"lib/wave".toList, some "decl/wave.glsl".toList, none⟩], "fx".toList, "glsl".toList,
    .table strandShelf, "/work".toList⟩

/-- The two shelves of the cove differ in the backslashes of keys only. -/
theorem coveShelf_slashed : (Reader.table coveShelf).Slashed (.table coveSlashes) := by
  apply Reader.slashed_of_table
  refine .cons ⟨rfl, ?_⟩ (.cons ⟨rfl, ?_⟩ (.cons ⟨rfl, ?_⟩ (.cons ⟨rfl, ?_⟩ .nil)))
  · exact .texts rfl rfl (by decide +kernel)
  · exact .texts rfl rfl (by decide +kernel)
  · exact .texts (t := "-- rise\n#include ..\\\\foam.top \\\nt".toList) (by decide +kernel) rfl
      (by decide +kernel)
  · exact .texts rfl rfl (by decide +kernel)

/-- The two shelves of the strand differ in the backslashes of keys only. -/
theorem strandShelf_slashed : (Reader.table strandShelf).Slashed (.table strandSlashes) := by
  apply Reader.slashed_of_table
  refine .cons ⟨rfl, ?_⟩ (.cons ⟨rfl, ?_⟩ .nil)
  · exact .texts rfl rfl (by decide +kernel)
  · exact .texts rfl rfl (by decide +kernel)

/-- Loose keys without declarations for names with directories, and steady keys with such a
declaration. -/
theorem compose_slashed_includes_cove :
    (∃ near far,
      (Composer.compose coveScene (.text "sub/cove.main".toList) [] ⟨.empty, [], []⟩).1 =
        .ok near ∧
      (Composer.compose { coveScene with reader := .table coveSlashes }
        (.text "sub/cove.main".toList) [] ⟨.empty, [], []⟩).1 = .ok far ∧
      near.files.length = 4 ∧ near.SameFiles far) ∧
    ∃ near far,
      (Composer.compose strandScene (.text "strand.main".toList) [] ⟨.empty, [], []⟩).1 =
        .ok near ∧
      (Composer.compose { strandScene with reader := .table strandSlashes }
        (.text "strand.main".toList) [] ⟨.empty, [], []⟩).1 = .ok far ∧
      near.files.length = 2 ∧ near.SameFiles far := by
  constructor
  · have hundivided : coveScene.Undivided := by
      unfold Registry.Undivided
      decide
    have hloose : ∀ text ∈ coveScene.reader.holdings, ∀ included ∈ includeKeysOf text,
        included.Unblank ∧ ('\\' ∈ included → Include.Loose included) := by
      decide +kernel
    obtain ⟨near, far, hnear, hfar, hfiles, hsame⟩ :=
      (compose_slashed_includes coveScene (.table coveSlashes) coveShelf_slashed
        "sub/cove.main".toList (Or.inr ⟨hundivided, by decide, hloose⟩) []).exists_of_any
        (fun near => near.files.length == 4) (by decide +kernel)
    exact ⟨near, far, hnear, hfar, beq_iff_eq.mp hfiles, hsame⟩
  · have hsteady : ∀ text ∈ strandScene.reader.holdings, ∀ included ∈ includeKeysOf text,
        Include.Steady included := by
      decide +kernel
    obtain ⟨near, far, hnear, hfar, hfiles, hsame⟩ :=
      (compose_slashed_includes strandScene (.table strandSlashes) strandShelf_slashed
        "strand.main".toList (Or.inl hsteady) []).exists_of_any
        (fun near => near.files.length == 2) (by decide +kernel)
    exact ⟨near, far, hnear, hfar, beq_iff_eq.mp hfiles, hsame⟩

/-- A key in which a part with a backslash is taken back as a whole. -/
def inletShelf : Shelf :=
  [("fx/inlet.glsl".toList, .text "-- main\n#include \"lib\\deep/../noise.hash\"\ni\n".toList),
    ("fx/lib/noise.glsl".toList, .text "-- hash\nn\n".toList)]

/-- The files with a slash in the key, so that only one part is taken back. -/
def inletSlashes : Shelf :=
  [("fx/inlet.glsl".toList, .text "-- main\n#include \"lib/deep/../noise.hash\"\ni\n".toList),
    ("fx/lib/noise.glsl".toList, .text "-- hash\nn\n".toList)]

/-- The inlet with its backslash. -/
def inletScene : Registry :=
  ⟨[], "fx".toList, "glsl".toList, .table inletShelf, "/work".toList⟩

/-- A composition can fail although it does not with slashes in the keys of the include lines. -/
theorem not_forall_slashed_includes :
    ¬ ∀ (r : Registry) (other : Reader), r.reader.Slashed other →
      ∀ (key : Text) (vars : Composer.Vars), Agree Composed.SameFiles
        (Composer.compose r (.text key) vars ⟨.empty, [], []⟩).1
        (Composer.compose { r with reader := other } (.text key) vars ⟨.empty, [], []⟩).1 := by
  intro hall
  have hreader : inletScene.reader.Slashed (.table inletSlashes) := by
    apply Reader.slashed_of_table
    refine .cons ⟨rfl, ?_⟩ (.cons ⟨rfl, ?_⟩ .nil)
    · exact .texts rfl rfl (by decide +kernel)
    · exact .texts rfl rfl (by decide +kernel)
  have hsame := (hall inletScene (.table inletSlashes) hreader "inlet.main".toList
    []).isSome_toOption
  have hnear : (Composer.compose inletScene (.text "inlet.main".toList) []
      ⟨.empty, [], []⟩).1.toOption.isSome = false := by
    decide +kernel
  have hfar : (Composer.compose { inletScene with reader := .table inletSlashes }
      (.text "inlet.main".toList) [] ⟨.empty, [], []⟩).1.toOption.isSome = true := by
    decide +kernel
  rw [hnear, hfar] at hsame
  exact absurd hsame (by decide)

end ShaderCompose
