import ShaderCompose.Proofs.Expansion.Depth
import ShaderCompose.Proofs.Expansion.Positions

/-!
# Expanded code points back to its sources

While sections are expanded, every effect that was loaded gets a file index, and the source file at
that index is the one the effect was loaded from.  Since the lines of a section are lines of its
file, and a marker is written wherever the numbering breaks off, each line of the code is read at
the position that it has in its file.
-/

set_option autoImplicit false

namespace ShaderCompose

/-! ## Loaded texts -/

/-- The effects that a cache holds were parsed from the texts that are given by identity. -/
def Cache.ParsedFrom (texts : Text → Text) (cache : Cache) : Prop :=
  ∀ identity loaded, cache.get? identity = some loaded →
    ∃ origin, loaded.effect = Effect.parse (texts identity) identity origin

/-- A cache that holds nothing is parsed from any texts. -/
theorem Cache.parsedFrom_empty (texts : Text → Text) : Cache.empty.ParsedFrom texts := by
  intro identity loaded hget
  simp [Cache.empty, Cache.get?] at hget

/-- The text that the effect of a source file is loaded from: the text that it was parsed from if
the cache holds it, and else what is read. -/
def Memory.textOf (m : Memory) (texts : Text → Text) (r : Registry) (file : SourceFile) :
    Except Failure Text :=
  match m.cache.get? file.identity with
  | some _ => .ok (texts file.identity)
  | none => r.read file

/-- A position of expanded code leads to a line: the file index is that of a source file, and the
line of its text with this number is the given one. -/
def LeadsTo (text? : SourceFile → Except Failure Text) (files : List SourceFile) (p : Position)
    (line : Text) : Prop :=
  ∃ file text, files[p.file]? = some file ∧ text? file = .ok text ∧ 1 ≤ p.line ∧
    (Text.splitLines text)[p.line - 1]? = some line

/-- A line that a position leads to has no breaks in it. -/
theorem LeadsTo.unbroken {text? : SourceFile → Except Failure Text} {files : List SourceFile}
    {p : Position} {line : Text} (h : LeadsTo text? files p line) : Text.Unbroken line := by
  obtain ⟨file, text, -, -, -, hline⟩ := h
  exact Text.unbroken_of_mem_splitLines (List.mem_of_getElem? hline)

/-! ## File indices -/

/-- A file index stands for an effect: the source file at the index has the identity of the effect,
and the effect in the cache was parsed from the text of that file. -/
def StandsFor (text? : SourceFile → Except Failure Text) (s : Expansion) (index : Nat)
    (identity : Text) : Prop :=
  ∃ file text loaded origin, s.files[index]? = some file ∧ file.identity = identity ∧
    text? file = .ok text ∧ s.memory.cache.get? identity = some loaded ∧
    loaded.effect = Effect.parse text identity origin

/-- The state of an expansion keeps track of its sources.  Between two requests every effect in the
cache was there at the start or has a file index, and so has every effect with a begun section. -/
structure Tracked (m : Memory) (text? : SourceFile → Except Failure Text) (s : Expansion) :
    Prop where
  standsFor {identity : Text} {index : Nat} :
    s.indices.lookup identity = some index → StandsFor text? s index identity
  kept {identity : Text} {loaded : Loaded} :
    m.cache.get? identity = some loaded → s.memory.cache.get? identity = some loaded
  held {identity : Text} {loaded : Loaded} :
    s.memory.cache.get? identity = some loaded →
      m.cache.get? identity = some loaded ∨ ∃ index, s.indices.lookup identity = some index
  begun {id : SectionId} :
    id ∈ s.expanded → ∃ index, s.indices.lookup id.1 = some index

/-- What a file index stands for stays as sources and effects are added. -/
theorem StandsFor.mono {text? : SourceFile → Except Failure Text} {s t : Expansion} {index : Nat}
    {identity : Text} (h : StandsFor text? s index identity) (hfiles : s.files <+: t.files)
    (hcache : ∀ loaded, s.memory.cache.get? identity = some loaded →
      t.memory.cache.get? identity = some loaded) : StandsFor text? t index identity := by
  obtain ⟨file, text, loaded, origin, hfile, hidentity, htext, hget, hparse⟩ := h
  obtain ⟨hbound, rfl⟩ := List.getElem?_eq_some_iff.mp hfile
  exact ⟨_, text, loaded, origin, List.prefix_iff_getElem?.mp hfiles index hbound, hidentity, htext,
    hcache loaded hget, hparse⟩

/-- Nothing is begun at the start of an expansion. -/
theorem Tracked.start (m : Memory) (text? : SourceFile → Except Failure Text) :
    Tracked m text? (.start m) where
  standsFor hlookup := by simp [Expansion.start] at hlookup
  kept hget := hget
  held hget := Or.inl hget
  begun hid := by simp [Expansion.start] at hid

section

variable {r : Registry} {m m' : Memory} {texts : Text → Text} {s : Expansion} {key : Text}
variable {target : Target}

/-- Every effect that an expansion meets in the cache was parsed from some text. -/
theorem Tracked.parsed {text? : SourceFile → Except Failure Text} (hs : Tracked m text? s)
    (hcache : m.cache.ParsedFrom texts) {identity : Text} {loaded : Loaded}
    (hget : s.memory.cache.get? identity = some loaded) :
    ∃ text origin, loaded.effect = Effect.parse text identity origin := by
  rcases hs.held hget with hget | ⟨index, hindex⟩
  · obtain ⟨origin, hparse⟩ := hcache identity loaded hget
    exact ⟨texts identity, origin, hparse⟩
  · obtain ⟨file, text, other, origin, -, -, -, hother, hparse⟩ := hs.standsFor hindex
    obtain rfl : other = loaded := Option.some.inj (hother.symm.trans hget)
    exact ⟨text, origin, hparse⟩

/-- A target that is found was parsed under the identity of its source file. -/
theorem Tracked.located {text? : SourceFile → Except Failure Text} (hs : Tracked m text? s)
    (hcache : m.cache.ParsedFrom texts) (h : locate r key s.memory = (.ok target, m')) :
    ∃ text origin, target.effect = Effect.parse text target.file.identity origin := by
  obtain ⟨parts, loaded, -, -, hload, heffect, -, -⟩ := locate_eq_ok h
  rw [heffect]
  rcases Memory.load_eq_ok hload with ⟨hget, -⟩ | ⟨-, text, -, rfl, -⟩
  · exact hs.parsed hcache hget
  · exact ⟨text, some target.file, rfl⟩

/-- The effect and the section of a target that is found have the identity of its source file. -/
theorem Tracked.identity_located {text? : SourceFile → Except Failure Text}
    (hs : Tracked m text? s) (hcache : m.cache.ParsedFrom texts)
    (h : locate r key s.memory = (.ok target, m')) :
    target.effect.identity = target.file.identity ∧ target.found.id.1 = target.file.identity := by
  obtain ⟨text, origin, hparse⟩ := hs.located hcache h
  obtain ⟨parts, loaded, -, -, -, heffect, hbest, -⟩ := locate_eq_ok h
  have hmem := Effect.mem_of_bestSection hbest
  rw [← heffect, hparse] at hmem
  obtain ⟨block, -, hfound⟩ := Effect.mem_sections_parse hmem
  exact ⟨by rw [hparse, Effect.identity_parse], by rw [hfound]; rfl⟩

/-- A target whose effect has no file index was parsed from the text of its source file. -/
theorem Tracked.text_located (hs : Tracked m (m.textOf texts r) s)
    (hcache : m.cache.ParsedFrom texts) (h : locate r key s.memory = (.ok target, m'))
    (hindex : s.indices.lookup target.file.identity = none) :
    ∃ text origin, m.textOf texts r target.file = .ok text ∧
      target.effect = Effect.parse text target.file.identity origin := by
  obtain ⟨parts, loaded, -, -, hload, heffect, -, -⟩ := locate_eq_ok h
  rw [heffect]
  rcases Memory.load_eq_ok hload with ⟨hget, -⟩ | ⟨hnone, text, hread, rfl, -⟩
  · rcases hs.held hget with hheld | ⟨index, hsome⟩
    · obtain ⟨origin, hparse⟩ := hcache _ loaded hheld
      exact ⟨_, origin, by simp only [Memory.textOf, hheld], hparse⟩
    · rw [hindex] at hsome
      contradiction
  · have hfresh : m.cache.get? target.file.identity = none := by
      cases hget : m.cache.get? target.file.identity with
      | none => rfl
      | some other =>
        rw [hs.kept hget] at hnone
        contradiction
    exact ⟨text, some target.file, by simp only [Memory.textOf, hfresh, hread], rfl⟩

/-- An effect in the cache after a target is found is that of the target, or was there before. -/
theorem get?_after_locate (h : locate r key m = (.ok target, m')) {identity : Text}
    {loaded : Loaded} (hget : m'.cache.get? identity = some loaded) :
    identity = target.file.identity ∨ m.cache.get? identity = some loaded := by
  obtain ⟨parts, found, -, -, hload, -, -, -⟩ := locate_eq_ok h
  rcases Memory.load_eq_ok hload with ⟨-, rfl⟩ | ⟨-, text, -, -, hinsert⟩
  · exact Or.inr hget
  · by_cases hidentity : identity = target.file.identity
    · exact Or.inl hidentity
    · rw [hinsert, Cache.get?_insert, if_neg hidentity] at hget
      exact Or.inr hget

/-- An effect in the cache is still there after a target is found. -/
theorem get?_locate (h : locate r key m = (.ok target, m')) {identity : Text} {loaded : Loaded}
    (hget : m.cache.get? identity = some loaded) : m'.cache.get? identity = some loaded :=
  (Cache.load_of_locate h).get? hget

/-- A section that was begun before is requested again: its effect has an index already. -/
theorem Tracked.warn (hs : Tracked m (m.textOf texts r) s) (hcache : m.cache.ParsedFrom texts)
    (h : locate r key s.memory = (.ok target, m')) (hbegun : target.found.id ∈ s.expanded) :
    Tracked m (m.textOf texts r) ((s.withMemory m').warn target key) where
  standsFor hlookup :=
    (hs.standsFor hlookup).mono List.prefix_rfl fun _ hget => get?_locate h hget
  kept hget := get?_locate h (hs.kept hget)
  held {identity loaded} hget := by
    rcases get?_after_locate h hget with rfl | hget
    · rw [← (hs.identity_located hcache h).2]
      exact Or.inr (hs.begun hbegun)
    · exact hs.held hget
  begun hid := hs.begun hid

/-- The index that an effect gets when its section is begun stands for the effect. -/
theorem Tracked.standsFor_begin (hs : Tracked m (m.textOf texts r) s)
    (hcache : m.cache.ParsedFrom texts) (h : locate r key s.memory = (.ok target, m')) :
    StandsFor (m.textOf texts r) ((s.withMemory m').begin target).2
      ((s.withMemory m').begin target).1 target.file.identity := by
  obtain ⟨hidentity, -⟩ := hs.identity_located hcache h
  cases hlookup : s.indices.lookup target.effect.identity with
  | some index =>
    rw [Expansion.begin_of_lookup (s := s.withMemory m') hlookup]
    rw [hidentity] at hlookup
    exact (hs.standsFor hlookup).mono List.prefix_rfl fun _ hget => get?_locate h hget
  | none =>
    rw [Expansion.begin_of_lookup_none (s := s.withMemory m') hlookup]
    rw [hidentity] at hlookup
    obtain ⟨text, origin, htext, hparse⟩ := hs.text_located hcache h hlookup
    obtain ⟨loaded, hloaded, heffect⟩ := get?_of_locate h
    exact ⟨target.file, text, loaded, origin, by simp, rfl, htext, hloaded, heffect.trans hparse⟩

/-- A section is begun: its effect has an index from then on. -/
theorem Tracked.begin (hs : Tracked m (m.textOf texts r) s) (hcache : m.cache.ParsedFrom texts)
    (h : locate r key s.memory = (.ok target, m')) :
    Tracked m (m.textOf texts r) ((s.withMemory m').begin target).2 := by
  obtain ⟨hidentity, hfound⟩ := hs.identity_located hcache h
  have hlookup := (s.withMemory m').lookup_begin target
  have hindex : ∀ {identity index}, s.indices.lookup identity = some index →
      ∃ index, ((s.withMemory m').begin target).2.indices.lookup identity = some index := by
    intro identity index hsome
    by_cases hsame : identity = target.effect.identity
    · exact ⟨_, by rw [hlookup, if_pos hsame]⟩
    · exact ⟨index, by rw [hlookup, if_neg hsame]; exact hsome⟩
  have hown : ∃ index, ((s.withMemory m').begin target).2.indices.lookup target.file.identity =
      some index := ⟨_, by rw [hlookup, if_pos hidentity.symm]⟩
  refine ⟨?_, ?_, ?_, ?_⟩
  · -- the effect that is begun stands for its own file, and the others stand for theirs
    intro identity index hsome
    rw [hlookup] at hsome
    by_cases hsame : identity = target.effect.identity
    · rw [if_pos hsame] at hsome
      rw [hsame, hidentity, ← Option.some.inj hsome]
      exact hs.standsFor_begin hcache h
    · rw [if_neg hsame] at hsome
      refine (hs.standsFor hsome).mono ((s.withMemory m').files_begin_grow target) ?_
      intro loaded hget
      rw [Expansion.memory_begin]
      exact get?_locate h hget
  · intro identity loaded hget
    rw [Expansion.memory_begin]
    exact get?_locate h (hs.kept hget)
  · intro identity loaded hget
    rw [Expansion.memory_begin] at hget
    rcases get?_after_locate h hget with rfl | hget
    · exact Or.inr hown
    · rcases hs.held hget with hget | ⟨index, hsome⟩
      · exact Or.inl hget
      · exact Or.inr (hindex hsome)
  · intro id hid
    rw [Expansion.expanded_begin] at hid
    rcases List.mem_append.mp hid with hid | hid
    · obtain ⟨index, hsome⟩ := hs.begun hid
      exact hindex hsome
    · obtain rfl : id = target.found.id := List.mem_singleton.mp hid
      rw [hfound]
      exact hown

/-- An expansion keeps track of its sources as long as it does not fail. -/
theorem Runs.tracked {job : Job} {s' : Expansion} {code : List CodeLine}
    (h : Runs r job s (.ok code) s') (hcache : m.cache.ParsedFrom texts)
    (hs : Tracked m (m.textOf texts r) s) :
    Tracked m (m.textOf texts r) s' := by
  induction h using Runs.ok_induction with
  | repeated hlocate hchain hbegun => exact hs.warn hcache hlocate hbegun
  | unfolded hlocate hchain hnew hcopy ih => exact ih (hs.begin hcache hlocate)
  | ended => exact hs
  | included hkey hrequest hrest ihrequest ihrest => exact ihrest (ihrequest hs)
  | copied hkey hrest ih => exact ih hs

end

/-! ## Positions of lines -/

/-- A line of expanded code is in its place: it has no breaks, and it is a version directive or is
met at a position that leads to it. -/
def InPlace (text? : SourceFile → Except Failure Text) (files : List SourceFile)
    (position : Option Position) (line : Text) : Prop :=
  Text.Unbroken line ∧
    (isVersionLine line = true ∨ ∃ p, position = some p ∧ LeadsTo text? files p line)

/-- The code that a job has to give.  What a request gives is in place wherever it comes.  For the
lines of a section this is so if their numbers lead to them, and if they are met where they are
numbered unless a marker is pending. -/
def Job.InPlace (text? : SourceFile → Except Failure Text) (files : List SourceFile) :
    Job → List CodeLine → Prop
  | .request _ _, code => ∀ position, Attributed (ShaderCompose.InPlace text? files) position code
  | .copy _ _ index lines pending, code =>
    ∀ first body position, lines = Text.numberLines first body →
      (∀ number line, (number, line) ∈ lines → LeadsTo text? files ⟨index, number⟩ line) →
      (pending = false → position = some ⟨index, first⟩) →
        Attributed (ShaderCompose.InPlace text? files) position code

/-- The numbers of the lines of a section lead to them if the file index stands for its effect. -/
theorem StandsFor.leadsTo {text? : SourceFile → Except Failure Text} {s : Expansion} {index : Nat}
    {identity : Text} (h : StandsFor text? s index identity) {loaded : Loaded}
    (hget : s.memory.cache.get? identity = some loaded) {found : Section}
    (hfound : found ∈ loaded.effect.sections) {files : List SourceFile}
    (hfiles : s.files <+: files) {number : Nat} {line : Text}
    (hline : (number, line) ∈ found.lines) : LeadsTo text? files ⟨index, number⟩ line := by
  obtain ⟨file, text, other, origin, hfile, -, htext, hother, hparse⟩ := h
  obtain rfl : other = loaded := Option.some.inj (hother.symm.trans hget)
  rw [hparse] at hfound
  obtain ⟨hpositive, hnumber⟩ := getElem?_of_mem_lines hfound hline
  obtain ⟨hbound, rfl⟩ := List.getElem?_eq_some_iff.mp hfile
  exact ⟨_, text, List.prefix_iff_getElem?.mp hfiles index hbound, htext, hpositive, hnumber⟩

/-- A copied line is in place, and so is what comes after it. -/
theorem attributed_copied {text? : SourceFile → Except Failure Text} {files : List SourceFile}
    {index first : Nat} {line : Text} {pending : Bool} {position : Option Position}
    {tail : List CodeLine} (hleads : LeadsTo text? files ⟨index, first⟩ line)
    (hposition : pending = false → position = some ⟨index, first⟩)
    (htail : ∀ later, ((pending && isVersionLine line) = false →
      later = some ⟨index, first + 1⟩) → Attributed (InPlace text? files) later tail) :
    Attributed (InPlace text? files) position
      (markerFor pending first index line ++ .copied line :: tail) := by
  have hline := hleads.unbroken
  cases pending with
  | false =>
    rw [hposition rfl]
    exact ⟨⟨hline, Or.inr ⟨_, rfl, hleads⟩⟩, htail _ fun _ => rfl⟩
  | true =>
    cases hversion : isVersionLine line with
    | true =>
      simp only [markerFor, hversion, Bool.not_true, Bool.and_false]
      exact ⟨⟨hline, Or.inl hversion⟩, htail _ fun hfalse => by simp [hversion] at hfalse⟩
    | false =>
      simp only [markerFor, hversion, Bool.not_false, Bool.and_true]
      exact ⟨⟨hline, Or.inr ⟨_, rfl, hleads⟩⟩, htail _ fun _ => rfl⟩

/-- The code of an expansion is in place. -/
theorem Runs.inPlace {r : Registry} {m : Memory} {texts : Text → Text} {job : Job}
    {s s' : Expansion} {code : List CodeLine} (h : Runs r job s (.ok code) s')
    (hcache : m.cache.ParsedFrom texts) (hs : Tracked m (m.textOf texts r) s)
    {files : List SourceFile} (hfiles : s'.files <+: files) :
    job.InPlace (m.textOf texts r) files code := by
  induction h using Runs.ok_induction with
  | repeated => exact fun _ => trivial
  | @unfolded chain key s s' target m' code hlocate hchain hnew hcopy ih =>
    have hbegin := hs.begin hcache hlocate
    have hindex := hs.standsFor_begin hcache hlocate
    obtain ⟨loaded, hloaded, heffect⟩ := get?_of_locate hlocate
    obtain ⟨parts, found, -, -, -, htarget, hbest, -⟩ := locate_eq_ok hlocate
    have hfound : target.found ∈ loaded.effect.sections := by
      rw [heffect, htarget]
      exact Effect.mem_of_bestSection hbest
    intro position
    refine ih hbegin hfiles _ _ position rfl ?_ (by simp)
    intro number line hline
    refine hindex.leadsTo ?_ hfound (hcopy.files_grow.trans hfiles) hline
    rw [Expansion.memory_begin]
    exact hloaded
  | ended => exact fun _ _ _ _ _ _ => trivial
  | included hkey hrequest hrest ihrequest ihrest =>
    intro first body position hlines hleads _
    cases body with
    | nil => simp [Text.numberLines] at hlines
    | cons line body =>
      simp only [Text.numberLines, List.cons.injEq] at hlines
      -- behind an include a marker is pending, so that the rest is in place wherever it comes
      refine (ihrequest hs (hrest.files_grow.trans hfiles) position).append ?_
      intro later
      refine ihrest (hrequest.tracked hcache hs) hfiles (first + 1) body later hlines.2 ?_
        (by simp)
      exact fun number line hmem => hleads number line (List.mem_cons_of_mem _ hmem)
  | copied hkey hrest ih =>
    intro first body position hlines hleads hposition
    cases body with
    | nil => simp [Text.numberLines] at hlines
    | cons line body =>
      simp only [Text.numberLines, List.cons.injEq, Prod.mk.injEq] at hlines
      obtain ⟨⟨rfl, rfl⟩, hrestLines⟩ := hlines
      refine attributed_copied (hleads _ _ List.mem_cons_self) hposition ?_
      intro later hlater
      refine ih hs hfiles _ body later hrestLines ?_ hlater
      exact fun number line hmem => hleads number line (List.mem_cons_of_mem _ hmem)

/-! ## Line attribution -/

/-- Every line of expanded code, up to the version directives and the markers, is read at the
position of the very same line in the text of its source, provided that no copied line starts like
a marker. -/
theorem expand_lines_attributed {r : Registry} {key : Text} {m m' : Memory} {expanded : Expanded}
    {texts : Text → Text} (hcache : m.cache.ParsedFrom texts)
    (h : expand r key m = (.ok expanded, m'))
    (hplain : ∀ line, .copied line ∈ expanded.code →
      Text.startsWith line "#line".toList = false) :
    codeRest (renderCode expanded.code) = [] ∧
      ∀ position line, (position, line) ∈ readPositions none (codeLines (renderCode expanded.code)) →
        isVersionLine line = false →
          ∃ p file text, position = some p ∧ expanded.files[p.file]? = some file ∧
            m.textOf texts r file = .ok text ∧ 1 ≤ p.line ∧
            (Text.splitLines text)[p.line - 1]? = some line := by
  obtain ⟨s, hruns, hfiles, -, -⟩ := runs_of_expand_eq_ok h
  have hplace : Attributed (InPlace (m.textOf texts r) expanded.files) none expanded.code :=
    hruns.inPlace hcache (Tracked.start m _) (hfiles ▸ List.prefix_rfl) none
  have hunbroken : ∀ line, .copied line ∈ expanded.code → '\n' ∉ line := by
    intro line hmem
    obtain ⟨_, hline, -⟩ := hplace.exists_of_mem hmem
    exact hline.1
  refine ⟨codeRest_renderCode hunbroken, ?_⟩
  intro position line hmem hversion
  rw [codeLines_renderCode hunbroken] at hmem
  obtain ⟨-, hline⟩ := hplace.of_mem_readPositions hplain hmem
  rcases hline with hline | ⟨p, hp, file, text, hfile, htext, hpositive, hget⟩
  · rw [hversion] at hline
    contradiction
  · exact ⟨p, file, text, hp, hfile, htext, hpositive, hget⟩

/-- A file with two sections, one of which includes the other. -/
def noiseText : Text :=
  "-- seed\nfloat seed;\n-- hash\n#include \"noise.seed\"\nfloat hash;\n".toList

/-- A scene that includes a section of another file twice.  The other file has changed. -/
def noiseScene : Registry :=
  ⟨[], "fx".toList, "glsl".toList,
    .table [
      ("fx/scene.glsl".toList, .text ("-- main\n#version 330\n#include \"noise.hash\"\nx\n" ++
        "#include \"noise.hash\"\ny\n").toList),
      ("fx/noise.glsl".toList, .text "-- seed\nint seed;\n".toList)],
    "/work".toList⟩

/-- The other file of the scene is in the cache as it was before. -/
def noiseMemory : Memory :=
  ⟨Cache.empty.insert "/work/fx/noise.glsl".toList
    (Effect.parse noiseText "/work/fx/noise.glsl".toList none), [], []⟩

/-- A test for the lines that are copied. -/
def CodeLine.passes (test : Text → Bool) : CodeLine → Bool
  | .copied line => test line
  | .marker _ _ => true

/-- The lines of the scene, and those of the cached file, are read where they stand. -/
theorem expand_noiseScene_attributed :
    ∃ expanded m', noiseMemory.cache.ParsedFrom (fun _ => noiseText) ∧
      expand noiseScene "scene.main".toList noiseMemory = (.ok expanded, m') ∧
      (∀ line, .copied line ∈ expanded.code → Text.startsWith line "#line".toList = false) ∧
      expanded.files.length = 2 ∧
      ∀ position line, (position, line) ∈ readPositions none (codeLines (renderCode expanded.code)) →
        isVersionLine line = false →
          ∃ p file text, position = some p ∧ expanded.files[p.file]? = some file ∧
            noiseMemory.textOf (fun _ => noiseText) noiseScene file = .ok text ∧ 1 ≤ p.line ∧
            (Text.splitLines text)[p.line - 1]? = some line := by
  have hcache : noiseMemory.cache.ParsedFrom fun _ => noiseText := by
    intro identity loaded hget
    unfold noiseMemory at hget
    rw [Cache.get?_insert] at hget
    split at hget
    · rename_i hidentity
      rw [← Option.some.inj hget, hidentity]
      exact ⟨none, rfl⟩
    · simp [Cache.empty, Cache.get?] at hget
  obtain ⟨expanded, m', hexpand, htest⟩ := exists_of_any
    (expand noiseScene "scene.main".toList noiseMemory)
    (fun expanded => expanded.files.length == 2 &&
      expanded.code.all (CodeLine.passes fun line => !Text.startsWith line "#line".toList))
    (by decide +kernel)
  obtain ⟨hfiles, hall⟩ := Bool.and_eq_true_iff.mp htest
  have hplain : ∀ line, .copied line ∈ expanded.code →
      Text.startsWith line "#line".toList = false := by
    intro line hmem
    simpa [CodeLine.passes] using List.all_eq_true.mp hall _ hmem
  exact ⟨expanded, m', hcache, hexpand, hplain, by simpa using hfiles,
    (expand_lines_attributed hcache hexpand hplain).2⟩

end ShaderCompose
