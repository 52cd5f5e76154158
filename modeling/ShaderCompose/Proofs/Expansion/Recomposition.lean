import ShaderCompose.Proofs.Expansion.Attribution
import ShaderCompose.Proofs.Relocation.Keys
import ShaderCompose.Proofs.Transparency

/-!
# Composed code composes to itself

Composed code has no include line, no line that starts a section, and no breaks but the line feeds
at the ends of its lines.  Behind a line that starts a section it makes an effect file again, with
that section alone.  Composing this file copies every line, and all that comes in is the one marker
that is due at the start of a section, in front of the first line that is no version directive.
-/

set_option autoImplicit false

namespace ShaderCompose

/-! ## Lines that stand for themselves -/

/-- A line that is copied as it is wherever it stands: it has no breaks in it, starts no section and
includes nothing. -/
structure Inert (line : Text) : Prop where
  unbroken : Text.Unbroken line
  plain : isPlain line = true
  own : Include.key? line = none

/-- A line with a hash in front starts no section. -/
theorem isPlain_hash (rest : Text) : isPlain ('#' :: rest) = true := rfl

/-- Markers are lines that are copied as they are. -/
theorem inert_marker (line file : Nat) : Inert (CodeLine.marker line file).content := by
  have hword : "#line ".toList = '#' :: "line ".toList := by decide
  have hdigits : ∀ n, '\r' ∉ Text.ofNat n := by
    intro n hmem
    exact absurd (Text.isDigit_of_mem_ofNat hmem) (by decide)
  have hreturn : '\r' ∉ (CodeLine.marker line file).content := by
    have hstart : '\r' ∉ "#line ".toList := by decide
    rw [content_marker, List.mem_append, List.mem_append, List.mem_cons, not_or, not_or, not_or]
    exact ⟨hstart, hdigits line, by decide, hdigits file⟩
  refine ⟨⟨lf_notMem_content (by simp), hreturn⟩, ?_, ?_⟩
  · rw [content_marker, hword, List.cons_append]
    exact isPlain_hash _
  · rw [content_marker]
    rfl

/-- Rendered code is its lines, each with a line feed. -/
theorem renderCode_eq_joinLines (code : List CodeLine) :
    renderCode code = Text.joinLines (code.map CodeLine.content) := by
  unfold renderCode Text.joinLines
  rw [List.flatMap_map]
  congr 1
  funext line
  exact render_eq_content line

/-- The lines of the body of a block start no section. -/
theorem isPlain_of_mem_body {text line : Text} {block : Block} (hblock : block ∈ blocksOf text)
    (hline : line ∈ block.body) : isPlain line = true := by
  obtain ⟨i, start, -, -, -, hbody⟩ := exists_of_mem_cutBlocks hblock
  rw [hbody] at hline
  exact List.mem_takeWhile_imp hline

/-- The lines of a section of a parsed effect have no breaks and start no section. -/
theorem plain_of_mem_lines {text identity : Text} {origin : Option SourceFile} {s : Section}
    (hs : s ∈ (Effect.parse text identity origin).sections) {entry : Nat × Text}
    (hentry : entry ∈ s.lines) : Text.Unbroken entry.2 ∧ isPlain entry.2 = true := by
  obtain ⟨block, hblock, rfl⟩ := Effect.mem_sections_parse hs
  rw [lines_toSection hblock] at hentry
  obtain ⟨i, -, hi⟩ := Text.mem_numberLines.mp hentry
  have hmem := List.mem_of_getElem? hi
  exact ⟨unbroken_of_mem_body hblock hmem, isPlain_of_mem_body hblock hmem⟩

/-! ## The lines of composed code -/

/-- The lines at hand have no breaks and start no section. -/
def Job.Plain : Job → Prop
  | .request _ _ => True
  | .copy _ _ _ lines _ => ∀ entry ∈ lines, Text.Unbroken entry.2 ∧ isPlain entry.2 = true

/-- The lines at hand have a property. -/
def Job.Fits (fit : Text → Prop) : Job → Prop
  | .request _ _ => True
  | .copy _ _ _ lines _ => ∀ entry ∈ lines, fit entry.2

section

variable {r : Registry} {job : Job} {s s' : Expansion} {code : List CodeLine}

/-- What is true of markers, and of lines of sections that are found and include nothing, is true of
all lines that an expansion gives. -/
theorem Runs.forall_mem {fit : Text → Prop} {good : CodeLine → Prop}
    (h : Runs r job s (.ok code) s')
    (hmarker : ∀ number index, good (.marker number index))
    (hcopied : ∀ line, fit line → Include.key? line = none → good (.copied line))
    (hfound : ∀ key (m m' : Memory) target, Cache.Loads r s.memory.cache m.cache →
      locate r key m = (.ok target, m') → ∀ entry ∈ target.found.lines, fit entry.2)
    (hjob : job.Fits fit) : ∀ line ∈ code, good line := by
  -- loads add up along the run, so what is known of later targets is known from every state on
  induction h using Runs.ok_induction with
  | repeated => simp
  | @unfolded chain key s s' target m code hlocate hchain hnew hcopy ih =>
    have hload : Cache.Loads r s.memory.cache m.cache := .single (Cache.load_of_locate hlocate)
    refine ih ?_ (hfound key s.memory m target .refl hlocate)
    intro key n n' other hloads
    rw [Expansion.memory_begin] at hloads
    exact hfound key n n' other (hload.trans hloads)
  | ended => simp
  | included hkey hrequest hrest ihrequest ihrest =>
    have hlines := fun entry hentry => hjob entry (List.mem_cons_of_mem _ hentry)
    intro line hline
    rcases List.mem_append.mp hline with hline | hline
    · exact ihrequest hfound trivial line hline
    · exact ihrest (fun key n n' other hloads =>
        hfound key n n' other (hrequest.loads.trans hloads)) hlines line hline
  | @copied chain dir line index number rest pending s s' tail hkey hrest ih =>
    have hlines := fun entry hentry => hjob entry (List.mem_cons_of_mem _ hentry)
    intro other hother
    rcases List.mem_append.mp hother with hother | hother
    · unfold markerFor at hother
      split at hother
      · rw [List.mem_singleton.mp hother]
        exact hmarker number index
      · simp at hother
    · rcases List.mem_cons.mp hother with rfl | hother
      · exact hcopied line (hjob _ List.mem_cons_self) hkey
      · exact ih hfound hlines other hother

/-- No line that an expansion gives has a break in it. -/
theorem Runs.unbroken (h : Runs r job s (.ok code) s') (hjob : job.Fits Text.Unbroken) :
    ∀ line ∈ code, Text.Unbroken line.content := by
  refine h.forall_mem (fun number index => (inert_marker number index).unbroken)
    (fun line hline _ => hline) ?_ hjob
  intro key m m' target _ _ entry hentry
  obtain ⟨i, -, hi⟩ := Text.mem_numberLines.mp hentry
  exact Text.unbroken_of_mem_splitLines (List.mem_of_getElem? hi)

/-- All lines that an expansion gives stand for themselves. -/
theorem Runs.inert (h : Runs r job s (.ok code) s') (hcache : s.memory.cache.Parsed)
    (hjob : job.Plain) : ∀ line ∈ code, Inert line.content := by
  have hfits : job.Fits fun line => Text.Unbroken line ∧ isPlain line = true := by
    cases job <;> exact hjob
  refine h.forall_mem inert_marker (fun line hline hkey => ⟨hline.1, hline.2, hkey⟩) ?_ hfits
  intro key m m' target hloads hlocate entry hentry
  obtain ⟨text, origin, -, hfound⟩ := (hloads.parsed hcache).target hlocate
  exact plain_of_mem_lines hfound hentry

end

/-- A composition without variables is an expansion, written out. -/
theorem expand_of_compose {r : Registry} {key : Value} {m m' : Memory} {c : Composed}
    (h : Composer.compose r key [] m = (.ok c, m')) :
    ∃ t expanded, key = .text t ∧
      expand r t (m.report [⟨.debug, "Composing ".toList ++ t⟩]) = (.ok expanded, m') ∧
      c = ⟨t, renderCode expanded.code, expanded.files, expanded.warnings⟩ := by
  have hargument : Composer.expandArgument r key m = (.ok c, m') := by
    unfold Composer.compose at h
    have hvars : Composer.checkVars "ShaderComposer.compose" ["self", "effect_key"] [] = .ok () :=
      rfl
    rw [hvars] at h
    rcases hexpand : Composer.expandArgument r key m with ⟨result, after⟩
    rw [hexpand] at h
    cases result with
    | error e => simp at h
    | ok found => exact h
  cases key with
  | text t =>
    simp only [Composer.expandArgument, expandKey_eq] at hargument
    rcases hexpand : expand r t (m.report [⟨.debug, "Composing ".toList ++ t⟩]) with ⟨result, after⟩
    rw [hexpand] at hargument
    obtain ⟨hresult, rfl⟩ := Prod.mk.inj hargument
    cases result with
    | error e => simp [Except.map] at hresult
    | ok expanded =>
      have hc : c = ⟨t, renderCode expanded.code, expanded.files, expanded.warnings⟩ := by
        simpa [Except.map, eq_comm] using hresult
      exact ⟨t, expanded, rfl, hexpand, hc⟩
  | _ => simp [Composer.expandArgument] at hargument

/-- Composed code consists of lines without breaks, each ended by a line feed. -/
theorem unbroken_of_compose {r : Registry} {key : Value} {m m' : Memory} {c : Composed}
    (h : Composer.compose r key [] m = (.ok c, m')) :
    ∃ lines, c.code = Text.joinLines lines ∧ ∀ line ∈ lines, Text.Unbroken line := by
  obtain ⟨t, expanded, -, hexpand, rfl⟩ := expand_of_compose h
  obtain ⟨s, hruns, -, -, -⟩ := runs_of_expand_eq_ok hexpand
  refine ⟨expanded.code.map CodeLine.content, renderCode_eq_joinLines _, ?_⟩
  rw [List.forall_mem_map]
  exact hruns.unbroken trivial

/-- Composed code consists of lines that stand for themselves, each ended by a line feed. -/
theorem inert_of_compose {r : Registry} {key : Value} {m m' : Memory} {c : Composed}
    (hcache : m.cache.Parsed) (h : Composer.compose r key [] m = (.ok c, m')) :
    ∃ lines, c.code = Text.joinLines lines ∧ ∀ line ∈ lines, Inert line := by
  obtain ⟨t, expanded, -, hexpand, rfl⟩ := expand_of_compose h
  obtain ⟨s, hruns, -, -, -⟩ := runs_of_expand_eq_ok hexpand
  refine ⟨expanded.code.map CodeLine.content, renderCode_eq_joinLines _, ?_⟩
  rw [List.forall_mem_map]
  exact hruns.inert hcache trivial

/-! ## A file with one section -/

/-- Plain lines are cut into no blocks at all. -/
theorem cutBlocks_of_plain {lines : List Text} (h : ∀ line ∈ lines, isPlain line = true)
    (first : Nat) : cutBlocks (Text.numberLines first lines) = (lines, []) := by
  have hcut := cutBlocks_plain_append h first []
  rw [List.append_nil] at hcut
  simpa [Text.numberLines, cutBlocks] using hcut

/-- The text of an effect file with one section. -/
def soleSection (name code : Text) : Text := "-- ".toList ++ name ++ '\n' :: code

/-- Two hyphens, a blank and a name start a section with this name, without blanks around it. -/
theorem sectionKey?_dashes (name : Text) :
    sectionKey? ("-- ".toList ++ name) = some (Text.strip name) := rfl

section

variable {name : Text} {lines : List Text}

/-- The text with one section is its separator and then the lines of the code. -/
theorem splitLines_soleSection (hname : Text.Unbroken name) (code : Text) :
    Text.splitLines (soleSection name code) = ("-- ".toList ++ name) :: Text.splitLines code := by
  have hstart : Text.Unbroken ("-- ".toList ++ name) := by
    have hdashes : Text.Unbroken "-- ".toList := by
      unfold Text.Unbroken
      decide
    refine ⟨?_, ?_⟩
    · rw [List.mem_append, not_or]
      exact ⟨hdashes.1, hname.1⟩
    · rw [List.mem_append, not_or]
      exact ⟨hdashes.2, hname.2⟩
  exact Text.splitLines_append_lf hstart code

/-- Lines that stand for themselves, behind a line that starts a section, make an effect with this
section alone. -/
theorem parse_soleSection (hname : Text.Unbroken name) (hstrip : Text.strip name = name)
    (hlines : ∀ line ∈ lines, Inert line) (identity : Text) (origin : Option SourceFile) :
    Effect.parse (soleSection name (Text.joinLines lines)) identity origin =
      ⟨identity, origin, [⟨identity, name, Text.joinLines lines, 2⟩], []⟩ := by
  have hblocks : blocksOf (soleSection name (Text.joinLines lines)) = [⟨name, 1, lines⟩] := by
    unfold blocksOf
    rw [splitLines_soleSection hname,
      Text.splitLines_joinLines fun line hline => (hlines line hline).unbroken]
    have hcut := cutBlocks_of_plain (fun line hline => (hlines line hline).plain) 2
    simp only [Text.numberLines, cutBlocks, hcut, sectionKey?_dashes, hstrip]
  unfold Effect.parse
  rw [hblocks]
  rfl

/-! ## Copying it -/

/-- Inert lines with no marker pending are copied one by one, and nothing else happens. -/
theorem runs_copied {r : Registry} {chain : Chain} {dir : Text} {index : Nat} {s : Expansion}
    (hlines : ∀ line ∈ lines, Inert line) (first : Nat) :
    Runs r (.copy chain dir index (Text.numberLines first lines) false) s
      (.ok (lines.map .copied)) s := by
  induction lines generalizing first with
  | nil => exact .ended
  | cons line more ih =>
    have hmore := ih (fun other hother => hlines other (List.mem_cons_of_mem _ hother)) (first + 1)
    have hpending : (false && isVersionLine line) = false := rfl
    rw [← hpending] at hmore
    exact .copied (hlines line List.mem_cons_self).own hmore

/-- The lines with a marker in front of the first that is no version directive.  The first line has
the given number. -/
def markedLines (first : Nat) : List Text → List CodeLine
  | [] => []
  | line :: rest =>
    if isVersionLine line then .copied line :: markedLines (first + 1) rest
    else .marker first 0 :: (line :: rest).map .copied

/-- With a marker pending the same lines are copied with one marker, in front of the first that is
no version directive. -/
theorem runs_markedLines {r : Registry} {chain : Chain} {dir : Text} {s : Expansion}
    (hlines : ∀ line ∈ lines, Inert line) (first : Nat) :
    Runs r (.copy chain dir 0 (Text.numberLines first lines) true) s
      (.ok (markedLines first lines)) s := by
  induction lines generalizing first with
  | nil => exact .ended
  | cons line more ih =>
    have hown := (hlines line List.mem_cons_self).own
    have hmore : ∀ other ∈ more, Inert other := fun other hother =>
      hlines other (List.mem_cons_of_mem _ hother)
    unfold markedLines
    cases hversion : isVersionLine line with
    | true =>
      -- the marker stays pending behind a version directive
      have hrest : Runs r (.copy chain dir 0 (Text.numberLines (first + 1) more)
          (true && isVersionLine line)) s (.ok (markedLines (first + 1) more)) s := by
        rw [hversion]
        exact ih hmore (first + 1)
      have hcopied := @Runs.copied _ _ r chain dir line 0 first _ true s s _ hown hrest
      simp only [markerFor, hversion, Except.map] at hcopied
      exact hcopied
    | false =>
      have hrest : Runs r (.copy chain dir 0 (Text.numberLines (first + 1) more)
          (true && isVersionLine line)) s (.ok (more.map .copied)) s := by
        rw [hversion]
        exact runs_copied hmore (first + 1)
      have hcopied := @Runs.copied _ _ r chain dir line 0 first _ true s s _ hown hrest
      simp only [markerFor, hversion, Except.map] at hcopied
      exact hcopied

/-- Code with one marker for the first file, in front of its first line that is no version
directive. The first line of the code has the given number. -/
def markFirst (first : Nat) (code : Text) : Text :=
  let versions := (Text.splitLines code).takeWhile isVersionLine
  match (Text.splitLines code).dropWhile isVersionLine with
  | [] => code
  | line :: rest =>
    Text.joinLines versions ++
      lineMarker (Text.ofNat (first + versions.length)) (Text.ofNat 0) ++
      Text.joinLines (line :: rest)

/-- Copied lines are rendered as they are. -/
theorem renderCode_copied (lines : List Text) :
    renderCode (lines.map .copied) = Text.joinLines lines := by
  rw [renderCode_eq_joinLines, List.map_map]
  exact congrArg Text.joinLines (List.map_id lines)

/-- What the lines with the marker are rendered to is the code with the marker put in. -/
theorem renderCode_markedLines (hlines : ∀ line ∈ lines, Inert line) (first : Nat) :
    renderCode (markedLines first lines) = markFirst first (Text.joinLines lines) := by
  have hsplit : ∀ {some : List Text}, (∀ line ∈ some, Inert line) →
      Text.splitLines (Text.joinLines some) = some := fun h =>
    Text.splitLines_joinLines fun line hline => (h line hline).unbroken
  unfold markFirst
  rw [hsplit hlines]
  -- each version line in front puts the number in the marker up by one
  induction lines generalizing first with
  | nil => rfl
  | cons line more ih =>
    unfold markedLines
    cases hversion : isVersionLine line with
    | true =>
      have hmore := ih (fun other hother => hlines other (List.mem_cons_of_mem _ hother))
        (first + 1)
      have hnumber : ∀ k, first + 1 + k = first + (k + 1) := by
        intro k
        omega
      have hrender : renderCode (.copied line :: markedLines (first + 1) more) =
          line ++ '\n' :: renderCode (markedLines (first + 1) more) := by
        simp [renderCode, CodeLine.render]
      rw [if_pos rfl, hrender, hmore, List.takeWhile_cons_of_pos hversion,
        List.dropWhile_cons_of_pos hversion]
      cases more.dropWhile isVersionLine with
      | nil => simp [Text.joinLines]
      | cons other rest =>
        dsimp only
        rw [hnumber, List.length_cons]
        simp [Text.joinLines]
    | false =>
      have hother : ¬ isVersionLine line = true := by simp [hversion]
      have hrender : renderCode (.marker first 0 :: (line :: more).map .copied) =
          lineMarker (Text.ofNat first) (Text.ofNat 0) ++ Text.joinLines (line :: more) := by
        rw [← renderCode_copied (line :: more)]
        rfl
      rw [if_neg (by simp), hrender, List.takeWhile_cons_of_neg hother,
        List.dropWhile_cons_of_neg hother]
      rfl

/-! ## Composing it -/

/-- A key that leads to a section whose lines stand for themselves is expanded to these lines. -/
theorem expand_of_locate {r : Registry} {key : Text} {m m' : Memory} {target : Target}
    (hlocate : locate r key m = (.ok target, m')) {first : Nat}
    (hfound : target.found.lines = Text.numberLines first lines)
    (hlines : ∀ line ∈ lines, Inert line) :
    expand r key m = (.ok ⟨markedLines first lines, [target.file], []⟩, m') := by
  have hbegin : ((Expansion.start m).withMemory m').begin target =
      (0, ⟨m', [target.found.id], [(target.effect.identity, 0)], [target.file], []⟩) :=
    Expansion.begin_of_lookup_none rfl
  have hruns : Runs r (.request [] key) (.start m) (.ok (markedLines first lines))
      ⟨m', [target.found.id], [(target.effect.identity, 0)], [target.file], []⟩ := by
    refine .unfolded hlocate (by simp) (by simp [Expansion.start]) ?_
    rw [hbegin, hfound]
    exact runs_markedLines hlines first
  rw [expand_eq_of_runs hruns]
  rfl

/-- A key that leads to a file with one section, whose lines stand for themselves, is expanded to
these lines. -/
theorem expand_soleSection {r : Registry} {key source : Text} {file : SourceFile} {m : Memory}
    (hname : Text.Unbroken name) (hstrip : Text.strip name = name)
    (hlines : ∀ line ∈ lines, Inert line)
    (hsplit : EffectKey.split? key = some ⟨source, name⟩) (hresolve : r.resolve source = .ok file)
    (hread : r.read file = .ok (soleSection name (Text.joinLines lines)))
    (hfresh : m.cache.get? file.identity = none) :
    ∃ m', expand r key m = (.ok ⟨markedLines 2 lines, [file], []⟩, m') := by
  have hparse := parse_soleSection hname hstrip hlines file.identity (some file)
  generalize hfound : (⟨file.identity, name, Text.joinLines lines, 2⟩ : Section) = found at hparse
  have hbest : (Effect.parse (soleSection name (Text.joinLines lines)) file.identity
      (some file)).bestSection name = some found := by
    have hmatch : found.isFor name = true := by
      rw [← hfound]
      exact List.isPrefixOf_iff_prefix.mpr List.prefix_rfl
    simp [hparse, Effect.bestSection, hmatch, Section.better]
  have hfoundLines : found.lines = Text.numberLines 2 lines := by
    rw [← hfound]
    unfold Section.lines
    rw [Text.splitLines_joinLines fun line hline => (hlines line hline).unbroken]
  have hlocate : ∃ target m', locate r key m = (.ok target, m') ∧ target.found = found ∧
      target.file = file := by
    unfold locate EffectKey.split Memory.load Memory.read
    simp only [hsplit, hresolve, hfresh, hread, hbest]
    exact ⟨_, _, rfl, rfl, rfl⟩
  obtain ⟨target, m', hlocate, rfl, rfl⟩ := hlocate
  exact ⟨m', expand_of_locate hlocate hfoundLines hlines⟩

end

/-- A registry with a single file, which has the given text and is at the default location of a
name. -/
def Registry.ofFile (baseDir extension workDir source text : Text) : Registry :=
  let blank : Registry := ⟨[], baseDir, extension, .blank, workDir⟩
  { blank with reader := .table [(blank.defaultLocation source, .text text)] }

/-- The name for which the single file was placed resolves to this file, and its text is read. -/
theorem Registry.resolve_ofFile {key source name : Text} (baseDir extension workDir text : Text)
    (hsplit : EffectKey.split? key = some ⟨source, name⟩) :
    ∃ file, (Registry.ofFile baseDir extension workDir source text).resolve source = .ok file ∧
      (Registry.ofFile baseDir extension workDir source text).read file = .ok text := by
  have hsource : Text.replaceChar '\\' '/' source = source :=
    EffectKey.replaceChar_of_split? hsplit
  generalize hr : Registry.ofFile baseDir extension workDir source text = r
  have hdeclared : r.declarations = [] := by
    rw [← hr]
    rfl
  have hreader : r.reader = .table [(r.defaultLocation source, .text text)] := by
    rw [← hr]
    rfl
  refine ⟨r.fileAt source (r.defaultLocation source), ?_, ?_⟩
  · unfold resolve
    rw [hsource]
    simp only [findDeclaration, hdeclared, List.find?_nil]
    rw [firstExisting_singleton, if_pos]
    simp [hreader, Reader.has, fileAt]
  · rw [read_eq_ok_iff, hreader]
    simp [Reader.read, fileAt, ReadOutcome.text?]

/-- If a key expands, then it is composed to the rendered code with the same source files and
warnings. -/
theorem compose_of_expand {r : Registry} {t : Text} {m m' : Memory} {expanded : Expanded}
    (h : expand r t (m.report [⟨.debug, "Composing ".toList ++ t⟩]) = (.ok expanded, m')) :
    Composer.compose r (.text t) [] m =
      (.ok ⟨t, renderCode expanded.code, expanded.files, expanded.warnings⟩, m') := by
  have hvars : Composer.checkVars "ShaderComposer.compose" ["self", "effect_key"] [] = .ok () :=
    rfl
  unfold Composer.compose Composer.expandArgument
  rw [hvars]
  simp only [expandKey_eq, h]
  rfl

/-- Code that is composed, with nothing to fill in, can be put into a file of its own and composed
again.  Behind a line that starts a section it is an effect with this section alone, whose body is
the code, and without warnings. Composing the section of this file gives the code again, with one
marker in front of the first line that is no version directive, from one source file and without
warnings. -/
theorem compose_flattened {r : Registry} {key : Value} {m m' : Memory} {c : Composed}
    (hcache : m.cache.Parsed) (h : Composer.compose r key [] m = (.ok c, m')) {name : Text}
    (hname : Text.Unbroken name) (hstrip : Text.strip name = name) :
    (∀ identity origin, Effect.parse (soleSection name c.code) identity origin =
      ⟨identity, origin, [⟨identity, name, c.code, 2⟩], []⟩) ∧
    Text.splitLines (soleSection name c.code) =
      ("-- ".toList ++ name) :: Text.splitLines c.code ∧
    ∀ flatKey source baseDir extension workDir,
      EffectKey.split? flatKey = some ⟨source, name⟩ →
        ∃ flat n', Composer.compose
            (.ofFile baseDir extension workDir source (soleSection name c.code))
            (.text flatKey) [] ⟨.empty, [], []⟩ = (.ok flat, n') ∧
          flat.code = markFirst 2 c.code ∧ flat.files.length = 1 ∧ flat.warnings = [] := by
  obtain ⟨lines, hcode, hlines⟩ := inert_of_compose hcache h
  rw [hcode]
  refine ⟨fun identity origin => parse_soleSection hname hstrip hlines identity origin,
    splitLines_soleSection hname _, ?_⟩
  intro flatKey source baseDir extension workDir hsplit
  obtain ⟨file, hresolve, hread⟩ := Registry.resolve_ofFile baseDir extension workDir
    (soleSection name (Text.joinLines lines)) hsplit
  obtain ⟨n', hexpand⟩ := expand_soleSection hname hstrip hlines hsplit hresolve hread
    (m := Memory.report ⟨.empty, [], []⟩ [⟨.debug, "Composing ".toList ++ flatKey⟩]) rfl
  refine ⟨_, n', compose_of_expand hexpand, ?_, rfl, rfl⟩
  exact renderCode_markedLines hlines 2

/-- A scene with a version directive, in which a section of another file is included twice. -/
def lagoonScene : Registry :=
  ⟨[], "fx".toList, "glsl".toList,
    .table [
      ("fx/lagoon.glsl".toList, .text ("-- main\r\n#version 330\r\n#include \"wave.height\"\r\n" ++
        "float depth;\r\n#include <wave.height>\r\nvoid main() \x7b\x7d").toList),
      ("fx/wave.glsl".toList, .text "-- height\nfloat height;\n".toList)],
    "/work".toList⟩

/-- The lagoon from a file of its own. -/
theorem compose_flattened_lagoon :
    ∃ c m' flat n', Cache.empty.Parsed ∧
      Composer.compose lagoonScene (.text "lagoon.main".toList) [] ⟨.empty, [], []⟩ = (.ok c, m') ∧
      c.code = ("#version 330\n#line 2 1\nfloat height;\n#line 4 0\nfloat depth;\n" ++
        "#line 6 0\nvoid main() \x7b\x7d\n").toList ∧
      Composer.compose (.ofFile "out".toList "glsl".toList "/work".toList "flat".toList
        (soleSection "S".toList c.code)) (.text "flat.S".toList) [] ⟨.empty, [], []⟩ =
          (.ok flat, n') ∧
      flat.code = ("#version 330\n#line 3 0\n#line 2 1\nfloat height;\n#line 4 0\n" ++
        "float depth;\n#line 6 0\nvoid main() \x7b\x7d\n").toList := by
  have hcache : Cache.empty.Parsed := Cache.parsed_of_entries_eq_nil rfl
  obtain ⟨c, m', hcompose, htest⟩ := exists_of_any
    (Composer.compose lagoonScene (.text "lagoon.main".toList) [] ⟨.empty, [], []⟩)
    (fun c => c.code == ("#version 330\n#line 2 1\nfloat height;\n#line 4 0\nfloat depth;\n" ++
        "#line 6 0\nvoid main() \x7b\x7d\n").toList) (by decide +kernel)
  have hcode := beq_iff_eq.mp htest
  have hname : Text.Unbroken "S".toList := by
    unfold Text.Unbroken
    decide
  obtain ⟨-, -, hagain⟩ := compose_flattened hcache hcompose hname (by decide +kernel)
  obtain ⟨flat, n', hflat, hflatCode, -, -⟩ := hagain "flat.S".toList "flat".toList "out".toList
    "glsl".toList "/work".toList (by decide +kernel)
  refine ⟨c, m', flat, n', hcache, hcompose, hcode, hflat, ?_⟩
  rw [hflatCode, hcode]
  decide +kernel

end ShaderCompose
