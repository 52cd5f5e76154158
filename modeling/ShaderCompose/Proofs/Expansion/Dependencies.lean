import ShaderCompose.Proofs.Expansion.Attribution
import ShaderCompose.Proofs.Path.Resolution
import ShaderCompose.Proofs.Transparency

/-!
# Expansions depend on their source files only

An expansion that succeeds lists every source that it has read or asked for: whatever is resolved on
the way, also for a request that is only noted as repeated, has the identity of one of the source
files.  So the expansion can be repeated, step by step, with any other reader that has the same
texts under these identities, whatever this reader has elsewhere.
-/

set_option autoImplicit false

namespace ShaderCompose

/-! ## Readers -/

/-- A reader that gives a text for a source has the source. -/
theorem Registry.has_of_read {r : Registry} {file : SourceFile} {text : Text}
    (h : r.read file = .ok text) : r.reader.has file = true := by
  have htext := Registry.read_eq_ok_iff.mp h
  cases hreader : r.reader with
  | function shelf => rfl
  | blank => rfl
  | table shelf =>
    rw [hreader] at htext
    cases hlookup : shelf.lookup file.location with
    | none => simp [Reader.read, hlookup, ReadOutcome.text?] at htext
    | some content =>
      obtain ⟨before, after, hshelf, -⟩ := List.lookup_eq_some_iff.mp hlookup
      simp [Reader.has, hshelf]
  | disk tree =>
    rw [hreader] at htext
    unfold Reader.read at htext
    unfold Reader.has
    dsimp only at htext ⊢
    cases hpackage : file.package with
    | none =>
      rw [hpackage] at htext
      dsimp only at htext ⊢
      split at htext
      · simp [ReadOutcome.text?] at htext
      · next hnull =>
        rw [if_neg hnull]
        split at htext
        · next hfind => rw [hfind]
        all_goals simp [ReadOutcome.text?] at htext
    | some package =>
      rw [hpackage] at htext
      cases package with
      | nil => simp [ReadOutcome.text?] at htext
      | cons c rest =>
        dsimp only at htext ⊢
        cases hresource : Reader.resource? (c :: rest) file.location with
        | none => simp [hresource, ReadOutcome.text?] at htext
        | some data => rfl

/-- A source file that a name stands for, whether it exists or not. -/
def Registry.Names (r : Registry) (file : SourceFile) : Prop :=
  ∃ name, ({ r with reader := .blank } : Registry).resolve name = .ok file

/-- No declaration has a location outside of a package. -/
def Registry.Unplaced (r : Registry) : Prop :=
  ∀ d ∈ r.declarations, d.package = none → d.location.getD [] = []

/-- How the resolution of a name depends on the reader if no declaration has a location outside of a
package: not at all, or in one file that exists or not. -/
theorem Registry.resolve_cases {r : Registry} (hdeclared : r.Unplaced) (name : Text) :
    (∃ result, ∀ reader, ({ r with reader } : Registry).resolve name = result) ∨
      ∃ file e, ∀ reader, ({ r with reader } : Registry).resolve name =
        if reader.has file then .ok file else .error e := by
  unfold Registry.resolve
  generalize Text.replaceChar '\\' '/' name = clean
  -- where a source is looked for by default does not depend on the reader
  have hdefault : ∃ file e, ∀ reader,
      ({ r with reader } : Registry).firstExisting clean [r.fileAt clean (r.defaultLocation clean)]
        ("no declaration and no file at '".toList ++ r.defaultLocation clean ++ ['\'']) =
        if reader.has file then .ok file else .error e :=
    ⟨_, _, fun reader => Registry.firstExisting_singleton { r with reader } clean _ _⟩
  cases hfound : r.findDeclaration clean with
  | none =>
    have hfind : ∀ reader, ({ r with reader } : Registry).findDeclaration clean = none :=
      fun _ => hfound
    simp only [hfind]
    exact Or.inr hdefault
  | some d =>
    have hfind : ∀ reader, ({ r with reader } : Registry).findDeclaration clean = some d :=
      fun _ => hfound
    simp only [hfind]
    obtain ⟨label, location, package⟩ := d
    cases package with
    | some package => exact Or.inl ⟨_, fun _ => rfl⟩
    | none =>
      have hplace := hdeclared _ (List.mem_of_find?_eq_some hfound) rfl
      match location, hplace with
      | none, _ => exact Or.inr hdefault
      | some [], _ => exact Or.inr hdefault
      | some (c :: rest), hplace => simp at hplace

section

variable {r : Registry} {other : Reader}

/-- Without declared locations, every file that a name resolves to is one that the name stands for
whatever exists. -/
theorem Registry.names_of_resolve (hdeclared : r.Unplaced) {name : Text} {file : SourceFile}
    (h : r.resolve name = .ok file) : r.Names file := by
  refine ⟨name, ?_⟩
  rcases Registry.resolve_cases hdeclared name with ⟨result, hresult⟩ | ⟨only, e, hresult⟩
  · rw [hresult .blank, ← hresult r.reader]
    exact h
  · have hown : r.resolve name = if r.reader.has only then .ok only else .error e :=
      hresult r.reader
    rw [hown] at h
    split at h
    · rw [hresult .blank, ← h]
      rfl
    · simp at h

/-- A name resolves to the same file with any other reader that has it. -/
theorem Registry.resolve_of_has (hdeclared : r.Unplaced) {name : Text} {file : SourceFile}
    (h : r.resolve name = .ok file) (hhas : other.has file = true) :
    ({ r with reader := other } : Registry).resolve name = .ok file := by
  rcases Registry.resolve_cases hdeclared name with ⟨result, hresult⟩ | ⟨only, e, hresult⟩
  · rw [hresult other, ← hresult r.reader]
    exact h
  · have hown : r.resolve name = if r.reader.has only then .ok only else .error e :=
      hresult r.reader
    rw [hown] at h
    split at h
    · obtain rfl : only = file := Except.ok.inj h
      rw [hresult other, if_pos hhas]
    · simp at h

/-! ## Repeating steps -/

/-- A load is repeated with another registry that reads the same text. -/
theorem Memory.load_again {r' : Registry} {m m' n : Memory} {file : SourceFile} {loaded : Loaded}
    (h : m.load r file = (.ok loaded, m')) (hcache : n.cache = m.cache)
    (hread : ∀ text, r.read file = .ok text → r'.read file = .ok text) :
    ∃ n', n.load r' file = (.ok loaded, n') ∧ n'.cache = m'.cache := by
  rcases Memory.load_eq_ok h with ⟨hget, rfl⟩ | ⟨hnone, text, htext, rfl, hinsert⟩
  · rw [← hcache] at hget
    exact ⟨n, Memory.load_of_get? hget, hcache⟩
  · have hnone' : n.cache.get? file.identity = none := by
      rw [hcache]
      exact hnone
    unfold Memory.load Memory.read
    rw [hnone', hread text htext]
    refine ⟨_, by rw [hcache], ?_⟩
    exact hinsert.symm

/-- A key is found again with another reader that has the file of its target and reads the same
text from it. -/
theorem locate_with_reader (hdeclared : r.Unplaced) {key : Text} {m m' n : Memory}
    {target : Target} (h : locate r key m = (.ok target, m')) (hcache : n.cache = m.cache)
    (hhas : other.has target.file = true)
    (hread : ∀ text, r.read target.file = .ok text →
      ({ r with reader := other } : Registry).read target.file = .ok text) :
    ∃ n', locate { r with reader := other } key n = (.ok target, n') ∧ n'.cache = m'.cache := by
  obtain ⟨parts, loaded, hsplit, hresolve, hload, heffect, hbest, hname⟩ := locate_eq_ok h
  obtain ⟨n', hload', hcache'⟩ := Memory.load_again hload hcache hread
  refine ⟨n', ?_, hcache'⟩
  unfold locate
  simp only [hsplit, Registry.resolve_of_has hdeclared hresolve hhas, hload', hbest]
  rw [← hname, ← heffect]

/-- Along a run only source files are added that names resolve to. -/
theorem Runs.files_resolved {job : Job} {s s' : Expansion}
    {result : Except Failure (List CodeLine)} (h : Runs r job s result s') {file : SourceFile}
    (hfile : file ∈ s'.files) : file ∈ s.files ∨ ∃ name, r.resolve name = .ok file := by
  induction h with
  | unlocated | cyclic | repeated | ended => exact Or.inl hfile
  | @unfolded chain key s s' target m result hlocate hchain hnew hcopy ih =>
    rcases ih hfile with hbegun | hresolved
    · cases hlookup : (s.withMemory m).indices.lookup target.effect.identity with
      | some index =>
        rw [Expansion.begin_of_lookup hlookup] at hbegun
        exact Or.inl hbegun
      | none =>
        rw [Expansion.begin_of_lookup_none hlookup] at hbegun
        rcases List.mem_append.mp hbegun with hbefore | hown
        · exact Or.inl hbefore
        · obtain ⟨parts, loaded, -, hresolve, -⟩ := locate_eq_ok hlocate
          rw [List.mem_singleton.mp hown]
          exact Or.inr ⟨parts.source, hresolve⟩
    · exact Or.inr hresolved
  | refused hkey hrequest ih => exact ih hfile
  | included hkey hrequest hrest ihrequest ihrest =>
    rcases ihrest hfile with hbefore | hresolved
    · exact ihrequest hbefore
    · exact Or.inr hresolved
  | copied hkey hrest ih => exact ih hfile

/-! ## Repeating expansions -/

/-- The two registries agree on some source files: what is read depends on the identity only, in
both of them, and of the source files the same text is read. -/
structure Registry.AgreesOn (r : Registry) (other : Reader) (files : List SourceFile) : Prop where
  unplaced : r.Unplaced
  congr {file file' : SourceFile} {text : Text} : r.Names file → r.Names file' →
    file.identity = file'.identity → r.read file = .ok text → r.read file' = .ok text
  congr_other {file file' : SourceFile} {text : Text} : r.Names file → r.Names file' →
    file.identity = file'.identity → ({ r with reader := other } : Registry).read file = .ok text →
      ({ r with reader := other } : Registry).read file' = .ok text
  named {file : SourceFile} : file ∈ files → r.Names file
  read {file : SourceFile} {text : Text} : file ∈ files → r.read file = .ok text →
    ({ r with reader := other } : Registry).read file = .ok text

variable {files : List SourceFile} {m : Memory}

/-- A target whose effect has a file index is read by the other reader as well. -/
theorem Registry.AgreesOn.read_target (hr : r.AgreesOn other files) {s : Expansion}
    {text? : SourceFile → Except Failure Text} (htext : ∀ file, text? file = r.read file)
    {index : Nat} {file : SourceFile} (hfile : r.Names file)
    (hindex : StandsFor text? s index file.identity) (hgrow : s.files <+: files) :
    ∃ text, r.read file = .ok text ∧
      ({ r with reader := other } : Registry).read file = .ok text := by
  obtain ⟨listed, text, loaded, origin, hlisted, hidentity, hread, -, -⟩ := hindex
  rw [htext] at hread
  have hmem : listed ∈ files := hgrow.subset (List.mem_of_getElem? hlisted)
  have hnamed := hr.named hmem
  exact ⟨text, hr.congr hnamed hfile hidentity hread,
    hr.congr_other hnamed hfile hidentity (hr.read hmem hread)⟩

/-- A key is found again with the other reader if its effect has a file index afterwards. -/
theorem Registry.AgreesOn.locate (hr : r.AgreesOn other files) {s : Expansion}
    {text? : SourceFile → Except Failure Text} (htext : ∀ file, text? file = r.read file)
    {key : Text} {m m' n : Memory} {target : Target} (h : locate r key m = (.ok target, m'))
    (hcache : n.cache = m.cache) {index : Nat}
    (hindex : StandsFor text? s index target.file.identity) (hgrow : s.files <+: files) :
    ∃ n', ShaderCompose.locate { r with reader := other } key n = (.ok target, n') ∧
      n'.cache = m'.cache := by
  obtain ⟨parts, loaded, -, hresolve, -⟩ := locate_eq_ok h
  have hnamed := Registry.names_of_resolve hr.unplaced hresolve
  obtain ⟨text, hread, hread'⟩ := hr.read_target htext hnamed hindex hgrow
  refine locate_with_reader hr.unplaced h hcache (Registry.has_of_read hread') ?_
  intro text' htext'
  rw [hread] at htext'
  rw [hread', htext']

/-- An evaluation that succeeds can be repeated with another reader that agrees on all of the files
it lists: it gives the same code and leaves the same cache. -/
theorem Runs.with_reader (hr : r.AgreesOn other files) (hm : m.cache = .empty) {job : Job}
    {s s' : Expansion} {code : List CodeLine} (h : Runs r job s (.ok code) s') {texts : Text → Text}
    (hs : Tracked m (m.textOf texts r) s) (hgrow : s'.files <+: files) {n : Memory}
    (hn : n.cache = s.memory.cache) :
    ∃ n', Runs { r with reader := other } job (s.withMemory n) (.ok code) (s'.withMemory n') ∧
      n'.cache = s'.memory.cache := by
  have hcache : m.cache.ParsedFrom texts := by
    rw [hm]
    exact Cache.parsedFrom_empty texts
  have htext : ∀ file, m.textOf texts r file = r.read file := by
    intro file
    simp [Memory.textOf, hm, Cache.empty, Cache.get?]
  induction h using Runs.ok_induction generalizing n with
  | @repeated chain key s target m' hlocate hchain hbegun =>
    -- no file is added here, but the section was begun before, so its file is listed already
    obtain ⟨hidentity, hfound⟩ := hs.identity_located hcache hlocate
    obtain ⟨index, hindex⟩ := hs.begun hbegun
    rw [hfound] at hindex
    obtain ⟨n', hlocate', hcaches⟩ := hr.locate htext hlocate hn (hs.standsFor hindex) hgrow
    have hwarned : Runs { r with reader := other } (.request chain key) (s.withMemory n) (.ok [])
        (((s.withMemory n).withMemory n').warn target key) :=
      .repeated hlocate' hchain hbegun
    exact ⟨((s.withMemory n').warn target key).memory, hwarned, hcaches⟩
  | @unfolded chain key s s' target m' code hlocate hchain hnew hcopy ih =>
    have hbegun := hs.begin hcache hlocate
    obtain ⟨n', hlocate', hcaches⟩ := hr.locate htext hlocate hn
      (hs.standsFor_begin hcache hlocate) (hcopy.files_grow.trans hgrow)
    have hbegin : ((s.withMemory n).withMemory n').begin target =
        (((s.withMemory m').begin target).1, ((s.withMemory m').begin target).2.withMemory n') :=
      begin_withMemory (s.withMemory m') n' (.of_bare_eq rfl)
    obtain ⟨n'', hcopied, hcaches'⟩ := ih hbegun hgrow (n := n') (by simpa using hcaches)
    refine ⟨n'', .unfolded hlocate' hchain hnew ?_, hcaches'⟩
    rw [hbegin]
    exact hcopied
  | ended => exact ⟨n, .ended, hn⟩
  | included hkey hrequest hrest ihrequest ihrest =>
    obtain ⟨n', hrequest', hcaches⟩ := ihrequest hs (hrest.files_grow.trans hgrow) hn
    obtain ⟨n'', hrest', hcaches'⟩ := ihrest (hrequest.tracked hcache hs) hgrow hcaches
    exact ⟨n'', .included hkey hrequest' hrest', hcaches'⟩
  | copied hkey hrest ih =>
    obtain ⟨n', hrest', hcaches⟩ := ih hs hgrow hn
    exact ⟨n', .copied hkey hrest', hcaches⟩

end

/-- An expansion that succeeds depends on its source files only.  Let no declaration have a location
outside of a package, and let what each of two readers gives for a source that a name stands for
depend on the identity of the source.  If the second reader has the text that the first one has for
every source file of an expansion, then with the second reader the key expands to the same code,
source files and warnings. -/
theorem expand_depends_on_files {r : Registry} (other : Reader) {key : Text} {expanded : Expanded}
    {m' : Memory}
    (hdeclared : ∀ d ∈ r.declarations, d.package = none → d.location.getD [] = [])
    (hcongr : ∀ file file' text, r.Names file → r.Names file' → file.identity = file'.identity →
      r.read file = .ok text → r.read file' = .ok text)
    (hcongr' : ∀ file file' text, r.Names file → r.Names file' → file.identity = file'.identity →
      ({ r with reader := other } : Registry).read file = .ok text →
        ({ r with reader := other } : Registry).read file' = .ok text)
    (hexpand : expand r key ⟨.empty, [], []⟩ = (.ok expanded, m'))
    (hfiles : ∀ file ∈ expanded.files, ∀ text, r.read file = .ok text →
      ({ r with reader := other } : Registry).read file = .ok text) :
    ∃ n', expand { r with reader := other } key ⟨.empty, [], []⟩ = (.ok expanded, n') := by
  obtain ⟨s, hruns, hlisted, hwarnings, -⟩ := runs_of_expand_eq_ok hexpand
  have hnamed : ∀ file ∈ expanded.files, r.Names file := by
    intro file hfile
    rw [hlisted] at hfile
    rcases hruns.files_resolved hfile with hbefore | ⟨name, hresolve⟩
    · simp [Expansion.start] at hbefore
    · exact Registry.names_of_resolve hdeclared hresolve
  have hr : r.AgreesOn other expanded.files :=
    ⟨hdeclared, hcongr _ _ _, hcongr' _ _ _, hnamed _, fun hfile => hfiles _ hfile _⟩
  have htracked : Tracked ⟨.empty, [], []⟩ (Memory.textOf ⟨.empty, [], []⟩ (fun _ => []) r)
      (.start ⟨.empty, [], []⟩) := Tracked.start _ _
  have hgrow : s.files <+: expanded.files := hlisted ▸ List.prefix_rfl
  obtain ⟨n', hrepeated, -⟩ :=
    hruns.with_reader hr rfl htracked hgrow (n := ⟨.empty, [], []⟩) rfl
  obtain ⟨result, t, hruns', hexpand'⟩ :=
    expand_runs { r with reader := other } key ⟨.empty, [], []⟩
  have hstart : (Expansion.start ⟨.empty, [], []⟩).withMemory ⟨.empty, [], []⟩ =
      .start ⟨.empty, [], []⟩ := rfl
  rw [hstart] at hrepeated
  obtain ⟨rfl, rfl⟩ := hrepeated.unique hruns'
  refine ⟨n', ?_⟩
  rw [hexpand', Expansion.files_withMemory, Expansion.warnings_withMemory, ← hlisted, ← hwarnings]
  rfl

/-- Under an absolute base directory and with nothing declared, the identity of a source is its
location. -/
theorem Registry.Names.identity {r : Registry} {file : SourceFile} (h : r.Names file)
    (hdeclared : r.declarations = []) (hbase : Path.isAbsolute r.baseDir = true) :
    file.identity = file.location := by
  obtain ⟨name, hresolve⟩ := h
  obtain rfl : r.fileAt (Text.replaceChar '\\' '/' name)
      (r.defaultLocation (Text.replaceChar '\\' '/' name)) = file := by
    simpa [Registry.resolve, Registry.findDeclaration, hdeclared, Registry.firstExisting,
      Registry.fileAt, Registry.defaultLocation, Reader.has] using hresolve
  have hlocation : ∃ path, Path.isAbsolute path = true ∧
      r.defaultLocation (Text.replaceChar '\\' '/' name) = Path.normalize path := by
    refine ⟨_, ?_, rfl⟩
    have hjoined := Path.isAbsolute_join (Path.isAbsolute_join hbase
      (Path.directory (Text.replaceChar '\\' '/' name)))
      (Path.lastPart (Text.replaceChar '\\' '/' name))
    split
    · exact hjoined
    · cases hpath : Path.join (Path.join r.baseDir
        (Path.directory (Text.replaceChar '\\' '/' name)))
        (Path.lastPart (Text.replaceChar '\\' '/' name)) with
      | nil => simp [hpath, Path.isAbsolute] at hjoined
      | cons c rest => simpa [hpath, Path.isAbsolute] using hjoined
  obtain ⟨path, habsolute, hpath⟩ := hlocation
  unfold SourceFile.identity Path.absolute Registry.fileAt
  dsimp only
  rw [hpath, Path.join_of_isAbsolute (by rw [Path.isAbsolute_normalize, habsolute]),
    Path.normalize_normalize]

/-- Two files of which one includes the other, and a third one that is not used. -/
def brookShelf : Shelf :=
  [("/lib/brook.glsl".toList, .text "-- main\n#include \"noise.hash\"\nb\n".toList),
    ("/lib/noise.glsl".toList, .text "-- hash\nh\n".toList),
    ("/lib/leaf.glsl".toList, .text "-- main\nl\n".toList)]

/-- The two files with other ones beside them. -/
def floodShelf : Shelf :=
  [("/lib/leaf.glsl".toList, .bytes [255]), ("/lib/flood.glsl".toList, .text "-- main\n".toList),
    ("/lib/noise.glsl".toList, .text "-- hash\nh\n".toList),
    ("/lib/brook.glsl".toList, .text "-- main\n#include \"noise.hash\"\nb\n".toList)]

/-- The brook with its files in the library. -/
def brookScene : Registry := ⟨[], "/lib".toList, "glsl".toList, .table brookShelf, "/".toList⟩

/-- The brook expands to the same when there are other files beside it. -/
theorem expand_depends_on_files_brook :
    ∃ expanded m' n', expand brookScene "brook.main".toList ⟨.empty, [], []⟩ = (.ok expanded, m') ∧
      expanded.files.length = 2 ∧
      expand { brookScene with reader := .table floodShelf } "brook.main".toList
        ⟨.empty, [], []⟩ = (.ok expanded, n') := by
  obtain ⟨expanded, m', hexpand, htest⟩ := exists_of_any
    (expand brookScene "brook.main".toList ⟨.empty, [], []⟩)
    (fun expanded => expanded.files.map SourceFile.location ==
      ["/lib/brook.glsl".toList, "/lib/noise.glsl".toList]) (by decide +kernel)
  have hlocations := beq_iff_eq.mp htest
  have hlookup : ∀ location ∈ ["/lib/brook.glsl".toList, "/lib/noise.glsl".toList],
      floodShelf.lookup location = brookShelf.lookup location := by
    decide +kernel
  have hidentity : ∀ {file}, brookScene.Names file → file.identity = file.location :=
    fun hfile => hfile.identity rfl (by decide +kernel)
  have hagain := expand_depends_on_files (.table floodShelf) (by simp [brookScene]) ?_ ?_
    hexpand ?_
  · obtain ⟨n', hn'⟩ := hagain
    exact ⟨expanded, m', n', hexpand, by simpa using congrArg List.length hlocations, hn'⟩
  · intro file file' text hfile hfile' hsame hread
    rw [hidentity hfile, hidentity hfile'] at hsame
    exact read_of_location_eq rfl hsame hread
  · intro file file' text hfile hfile' hsame hread
    rw [hidentity hfile, hidentity hfile'] at hsame
    exact read_of_location_eq rfl hsame hread
  · intro file hfile text hread
    have hmem : file.location ∈ ["/lib/brook.glsl".toList, "/lib/noise.glsl".toList] := by
      rw [← hlocations]
      exact List.mem_map_of_mem hfile
    rw [Registry.read_eq_ok_iff] at hread ⊢
    simpa only [brookScene, Reader.read, hlookup _ hmem] using hread

end ShaderCompose
