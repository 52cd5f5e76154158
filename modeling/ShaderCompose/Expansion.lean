import ShaderCompose.Cache
import ShaderCompose.Effect.Match
import ShaderCompose.EffectKey
import ShaderCompose.Include

/-!
# Expanding includes

A requested section is copied line by line, and each include line is replaced by the expansion of
what it names.  Every section is expanded once; a later request for it gives no lines and a
warning, and a request for a section that is still being expanded is a cycle.  A marker tells the
shader compiler the file and line of the next line wherever the numbering breaks off: at the start
of a section and behind an include.  Lines with the version directive come before any marker.
-/

set_option autoImplicit false

namespace ShaderCompose

variable {ρ : Type} [SourceReader ρ]

/-- A marker that says which line of which file comes next, both given as they are shown. -/
def lineMarker (line file : Text) : Text := "#line ".toList ++ line ++ ' ' :: (file ++ ['\n'])

/-- A line of expanded code: a marker, or a line copied from a section. -/
inductive CodeLine where
  | marker (line file : Nat)
  | copied (text : Text)
deriving DecidableEq, Repr

/-- The text of a line, with its line feed. -/
def CodeLine.render : CodeLine → Text
  | .marker line file => lineMarker (Text.ofNat line) (Text.ofNat file)
  | .copied text => text ++ ['\n']

/-- The text of expanded code. -/
def renderCode (code : List CodeLine) : Text := code.flatMap CodeLine.render

/-- Lines with the version directive, which has to stay in front of everything else. -/
def isVersionLine (line : Text) : Bool := Text.startsWith line "#version".toList

/-- What an effect key stands for. -/
structure Target where
  /-- The logical name of the source. -/
  name : Text
  file : SourceFile
  effect : Effect
  found : Section
deriving Repr

/-- Finds what an effect key stands for, loading its effect if necessary. -/
def locate (r : Registry ρ) (key : Text) (m : Memory) : Except Failure Target × Memory :=
  match EffectKey.split key with
  | .error e => (.error e, m)
  | .ok parts =>
    match r.resolve parts.source with
    | .error e => (.error e, m)
    | .ok file =>
      match m.load r file with
      | (.error e, m) => (.error e, m)
      | (.ok loaded, m) =>
        match loaded.effect.bestSection parts.sectionKey with
        | none =>
          (.error (.effect
            (.sectionNotFound loaded.effect.identity parts.sectionKey (some key))), m)
        | some found => (.ok ⟨parts.source, file, loaded.effect, found⟩, m)

/-- How far an expansion has come. -/
structure Expansion where
  memory : Memory
  /-- The sections whose expansion has begun. -/
  expanded : List SectionId
  /-- The file index of each effect, by its identity. -/
  indices : List (Text × Nat)
  /-- The source files by file index. -/
  files : List SourceFile
  warnings : List Warning
deriving Repr

namespace Expansion

/-- The start of an expansion. -/
def start (m : Memory) : Expansion := ⟨m, [], [], [], []⟩

/-- Notes that a section was requested again. -/
def warn (s : Expansion) (target : Target) (key : Text) : Expansion :=
  let warning := .duplicateInclude target.effect.identity target.found.key key
  { s with
    warnings := s.warnings ++ [warning]
    memory := s.memory.report [⟨.warning, warning.message⟩] }

/-- Begins with a section.  An effect gets the next file index when its first section is begun. -/
def begin (s : Expansion) (target : Target) : Nat × Expansion :=
  let s := { s with expanded := s.expanded ++ [target.found.id] }
  match s.indices.lookup target.effect.identity with
  | some index => (index, s)
  | none =>
    let index := s.files.length
    (index,
      { s with
        indices := s.indices ++ [(target.effect.identity, index)]
        files := s.files ++ [target.file] })

end Expansion

/-- The sections that are being expanded, the outermost first, with the keys that requested
them. -/
abbrev Chain := List (SectionId × Text)

/-- Copies the lines of a section and expands its include lines by the given function.  A marker is
pending at the start and behind an include, and comes before the next line that is not a version
directive. -/
def expandLines (request : Text → Expansion → Except Failure (List CodeLine) × Expansion)
    (dir : Text) (index : Nat) :
    List (Nat × Text) → Bool → Expansion → Except Failure (List CodeLine) × Expansion
  | [], _, s => (.ok [], s)
  | (number, line) :: rest, pending, s =>
    match Include.key? line with
    | some key =>
      match request (Include.relativeTo dir key) s with
      | (.error e, s) => (.error e, s)
      | (.ok inner, s) =>
        match expandLines request dir index rest true s with
        | (.error e, s) => (.error e, s)
        | (.ok tail, s) => (.ok (inner ++ tail), s)
    | none =>
      let marked := pending && !isVersionLine line
      match expandLines request dir index rest (pending && !marked) s with
      | (.error e, s) => (.error e, s)
      | (.ok tail, s) =>
        (.ok ((if marked then [.marker number index] else []) ++ .copied line :: tail), s)

/-- Expands the section that an effect key stands for, with at most `depth` sections inside each
other. -/
def expandKey (r : Registry ρ) :
    Nat → Chain → Text → Expansion → Except Failure (List CodeLine) × Expansion
  | 0, _, _, s => (.error .nesting, s)
  | depth + 1, chain, key, s =>
    match locate r key s.memory with
    | (.error e, m) => (.error e, { s with memory := m })
    | (.ok target, m) =>
      let s := { s with memory := m }
      if chain.any (·.1 == target.found.id) then
        (.error (.effect (.cyclicInclude (chain.map Prod.snd ++ [key]))), s)
      else if s.expanded.contains target.found.id then
        (.ok [], s.warn target key)
      else
        let (index, s) := s.begin target
        expandLines (expandKey r depth (chain ++ [(target.found.id, key)]))
          (Path.directory target.name) index target.found.lines true s

/-- What an effect key expands to. -/
structure Expanded where
  code : List CodeLine
  files : List SourceFile
  warnings : List Warning
deriving Repr

/-- Expands an effect key, with at most `depth` sections inside each other. -/
def expandWithin (r : Registry ρ) (depth : Nat) (key : Text) (m : Memory) :
    Except Failure Expanded × Memory :=
  match expandKey r depth [] key (.start m) with
  | (.error e, s) => (.error e, s.memory)
  | (.ok code, s) => (.ok ⟨code, s.files, s.warnings⟩, s.memory)

/-- How many lines of a text start a section. -/
def separatorCount (text : Text) : Nat := (blocksOf text).length

/-- A count added up over a list. -/
def totalOf {α : Type} (count : α → Nat) (items : List α) : Nat :=
  items.foldr (fun item total => count item + total) 0

/-- More than the number of sections that can be requested: those of the effects in the cache, and
those of every text at hand, once for each identity that it can go by. -/
def depthBound (r : Registry) (m : Memory) : Nat :=
  totalOf (fun entry => entry.2.effect.sections.length) m.cache.entries +
    (r.declarations.length + 2) * totalOf separatorCount r.reader.holdings + 1

/-- Expands an effect key, with as many sections inside each other as there can be. -/
def expand (r : Registry) (key : Text) (m : Memory) : Except Failure Expanded × Memory :=
  expandWithin r (depthBound r m + 1) key m

end ShaderCompose
