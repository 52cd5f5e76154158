import ShaderCompose.Composer

/-!
# Sessions

A session is a composer in use: requests are made of it one after the other, its sources change in
between, and it may be replaced by another one.  What a failed request did before it failed stays.
The sources that can change are those of the session; a composer that came with a reader of its own
does not see them.
-/

set_option autoImplicit false

namespace ShaderCompose

/-- A composer: its registry and cache, and a number that tells it from others of the session. -/
structure Studio where
  registry : Registry
  cache : Cache
  number : Nat
  /-- Whether the composer reads the sources of the session. -/
  live : Bool

/-- The composer with other sources, if it reads those of the session. -/
def Studio.follow (studio : Studio) (store : Reader) : Studio :=
  if studio.live then { studio with registry := { studio.registry with reader := store } }
  else studio

/-- An expander, which serves one request.  It keeps the composer it was made for if the session
has moved on to another one. -/
structure Expander where
  used : Bool
  studio : Option Studio

/-- A composer in use. -/
structure Session where
  settings : Settings
  options : Options
  /-- The sources of the session, which can be changed. -/
  store : Reader
  /-- Whether the options are for a composer that reads these sources. -/
  live : Bool
  studio : Studio
  /-- How many composers there have been. -/
  studios : Nat
  /-- The locations that were read. -/
  reads : List Text
  /-- What was reported since it was last asked for. -/
  journal : Journal
  expander : Option Expander
  last : Option Composed
  /-- The parsed effects that were shown, by composer and serial number. -/
  shown : List (Nat × Nat)

/-- A source file that was passed in parts, or a value of the named kind in its place. -/
inductive FileArgument where
  | parts (logicalName location package : Value)
  | other (kind : Text)

/-- The source file with the given parts. -/
def SourceFile.ofParts (workDir : Text) (logicalName location package : Value) :
    Except Failure SourceFile := do
  let name ← Argument.expectText "logical_name" logicalName
  let place ← Argument.expectText "location" location
  let owner ← Argument.expectText? "package" package
  pure ⟨name, place, owner, workDir⟩

/-- A source: by the name it is requested by, or as a file. -/
inductive SourceArgument where
  | name (v : Value)
  | file (f : FileArgument)

namespace Session

/-- A session with some sources and the composer that the options make, which is `live` if it reads
these sources. -/
def start (settings : Settings) (options : Options) (store : Reader) (live : Bool)
    (journal : Journal) : Except Failure Session := do
  let registry ← options.registry settings
  pure
    { settings, options, store, live, studio := ⟨registry, .empty, 0, live⟩, studios := 1,
      reads := [], journal, expander := none, last := none, shown := [] }

/-- Runs an operation on a composer.  Only what is read of the session's sources is noted. -/
def runOn {α : Type} (s : Session) (studio : Studio)
    (f : Registry → Memory → Except Failure α × Memory) : Except Failure α × Studio × Session :=
  let (result, m) := f studio.registry ⟨studio.cache, s.reads, s.journal⟩
  (result, { studio with cache := m.cache },
    { s with reads := if studio.live then m.reads else s.reads, journal := m.journal })

/-- Runs an operation on the composer of the session. -/
def run {α : Type} (s : Session) (f : Registry → Memory → Except Failure α × Memory) :
    Except Failure α × Session :=
  let (result, studio, s) := s.runOn s.studio f
  (result, { s with studio })

/-- What was reported since it was last asked for, at or above a level. -/
def takeJournal (s : Session) (level : Int) : Journal × Session :=
  (s.journal.atLevel level, { s with journal := [] })

/-- Remembers a composition as the last one. -/
def remember : Except Failure Composed × Session → Except Failure Composed × Session
  | (.ok c, s) => (.ok c, { s with last := some c })
  | other => other

/-- Composes an effect key and fills in the result. -/
def compose (s : Session) (key : Value) (vars : Composer.Vars) :
    Except Failure Composed × Session :=
  remember (s.run fun r m => Composer.compose r key vars m)

/-- The stages of a program: a repeated one has its first place and its last key. -/
def stagesOf (found : List (Value × Value)) : List (Value × Value) →
    Except Failure (List (Value × Value))
  | [] => .ok found
  | (stage, key) :: rest => do
    Argument.expectKey stage
    stagesOf (Value.storeEntry found stage key) rest

/-- Composes the stages of a program. -/
def program (s : Session) (stages : List (Value × Value)) (vars : Composer.Vars) :
    Except Failure (List (Value × Composed)) × Session :=
  match stagesOf [] stages with
  | .error e => (.error e, s)
  | .ok stages => s.run fun r m => Composer.composeProgram r stages vars m

/-- Makes an expander for the composer of the session. -/
def newExpander (s : Session) : Session := { s with expander := some ⟨false, none⟩ }

/-- The refusal of a request that is made of something that is not there. -/
def absent (member : String) : Failure :=
  .misuse (.lacksMember Value.none.kindName member.toList)

/-- The last composition, of which a member is asked for. -/
def lastWith (s : Session) (member : String) : Except Failure Composed :=
  match s.last with
  | some c => .ok c
  | none => .error (absent member)

/-- The location of a file index of the last composition. -/
def locationOf (s : Session) (index : Value) : Except Failure Text := do
  CompilerLog.locationOf "tuple" (← s.lastWith "map_location").locations index

/-- A log with the locations of the last composition in place of file indices. -/
def translate (s : Session) (log : Value) : Except Failure Text := do
  let c ← s.lastWith "translate_log"
  CompilerLog.translate c.locations (← Argument.textWith "splitlines" log)

/-- Composes an effect key by the expander, which can do so once. -/
def expand (s : Session) (key : Value) : Except Failure Composed × Session :=
  match s.expander with
  | none => (.error (absent "expand"), s)
  | some ⟨true, _⟩ => (.error (.misuse .expanderUsedTwice), s)
  | some ⟨false, none⟩ =>
    let s := { s with expander := some ⟨true, none⟩ }
    remember (s.run fun r m => Composer.expandArgument r key m)
  | some ⟨false, some studio⟩ =>
    let (result, studio, s) := s.runOn studio fun r m => Composer.expandArgument r key m
    remember (result, { s with expander := some ⟨true, some studio⟩ })

/-- The source file for a name. -/
def resolve (s : Session) (name : Value) : Except Failure SourceFile := do
  s.studio.registry.resolve (← Argument.expectText "logical_name" name)

/-- The declaration for a name. -/
def findDeclaration (s : Session) (name : Value) : Except Failure (Option Declaration) :=
  if s.studio.registry.declarations.isEmpty then .ok none
  else (Argument.textWith "lower" name).map s.studio.registry.findDeclaration

/-- The default location of a name. -/
def defaultLocation (s : Session) (name : Value) : Except Failure Text :=
  match name with
  | .text t => .ok (s.studio.registry.defaultLocation t)
  | v => .error (.misuse (.notPath v.kindName))

/-- Declares a source; the result is the number of declarations. -/
def declare (s : Session) (d : DeclarationArgument) : Except Failure Nat × Session :=
  match d.expect with
  | .error e => (.error e, s)
  | .ok d =>
    let registry := s.studio.registry.declare d
    (.ok registry.declarations.length, { s with studio := { s.studio with registry } })

/-- The source file that an argument means, or the kind of a value that is none. -/
def fileOf (s : Session) : SourceArgument → Except Failure (Except Text SourceFile)
  | .name v => (s.resolve v).map .ok
  | .file (.parts name location package) =>
    (SourceFile.ofParts s.studio.registry.workDir name location package).map .ok
  | .file (.other kind) => .ok (.error kind)

/-- The source file that an argument has to mean. -/
def expectFile (s : Session) (source : SourceArgument) : Except Failure SourceFile := do
  match ← s.fileOf source with
  | .ok file => pure file
  | .error kind => throw (Argument.refuse "source_file" "SourceFile" kind)

/-- Whether a source exists as far as the reader can tell. -/
def sourceExists (s : Session) (source : SourceArgument) : Except Failure Bool := do
  match ← s.fileOf source with
  | .ok file => pure (s.studio.registry.reader.has file)
  | .error kind =>
    match s.studio.registry.reader with
    | .table _ => throw (.misuse (.lacksMember kind "location".toList))
    | .disk _ => throw (.misuse (.lacksMember kind "embedded".toList))
    | _ => pure true

/-- The text of a source. -/
def read (s : Session) (source : SourceArgument) : Except Failure Text × Session :=
  match s.expectFile source with
  | .error e => (.error e, s)
  | .ok file => s.run fun r m => m.read r file

/-- The number under which a parsed effect is shown: the effects are numbered in the order in which
they show up. -/
def numberOf (s : Session) (loaded : Loaded) : Nat × Session :=
  let object := (s.studio.number, loaded.serial)
  match s.shown.idxOf? object with
  | some n => (n, s)
  | none => (s.shown.length, { s with shown := s.shown ++ [object] })

/-- The effect of a source. -/
def loadEffect (s : Session) (source : SourceArgument) : Except Failure Loaded × Session :=
  match s.expectFile source with
  | .error e => (.error e, s)
  | .ok file => s.run fun r m => m.load r file

/-- The effect of a source and its number. -/
def load (s : Session) (source : SourceArgument) : Except Failure (Nat × Effect) × Session :=
  match s.loadEffect source with
  | (.error e, s) => (.error e, s)
  | (.ok loaded, s) =>
    let (n, s) := s.numberOf loaded
    (.ok (n, loaded.effect), s)

/-- The section of a source's effect for a requested key. -/
def matching (s : Session) (source : SourceArgument) (key : Value) :
    Except Failure (Option Section) × Session :=
  match s.loadEffect source with
  | (.error e, s) => (.error e, s)
  | (.ok loaded, s) => ((Argument.textWith "lower" key).map loaded.effect.bestSection, s)

/-- The cached effect under a key, which has to be a value that can be one. -/
def cached (s : Session) (identity : Value) : Except Failure (Option Loaded) := do
  Argument.expectKey identity
  match identity with
  | .text t => pure (s.studio.cache.get? t)
  | _ => pure none

/-- The cached effect under a key, with its number. -/
def get (s : Session) (identity : Value) : Except Failure (Option (Nat × Effect)) × Session :=
  match s.cached identity with
  | .error e => (.error e, s)
  | .ok none => (.ok none, s)
  | .ok (some loaded) =>
    let (n, s) := s.numberOf loaded
    (.ok (some (n, loaded.effect)), s)

/-- Empties the cache. -/
def clear (s : Session) : Session :=
  { s with studio := { s.studio with cache := s.studio.cache.clear } }

/-- The session with other sources. -/
def changeStore (s : Session) (store : Reader) : Session :=
  { s with
    store
    studio := s.studio.follow store
    options := if s.live then { s.options with reader := .ok store } else s.options
    expander := s.expander.map fun e => { e with studio := e.studio.map (·.follow store) } }

/-- Adds or replaces a source. -/
def put (s : Session) (location : Text) (content : ReadOutcome) : Except Failure Unit × Session :=
  match s.store.put s.options.workDir location content with
  | .error e => (.error e, s)
  | .ok store => (.ok (), s.changeStore store)

/-- Removes a source. -/
def drop (s : Session) (location : Text) : Except Failure Unit × Session :=
  match s.store.drop s.options.workDir location with
  | .error e => (.error e, s)
  | .ok store => (.ok (), s.changeStore store)

/-- Moves on to another composer. -/
def moveOn (s : Session) (registry : Registry) (live : Bool) : Session :=
  { s with
    studio := ⟨registry, .empty, s.studios, live⟩
    studios := s.studios + 1
    expander := s.expander.map fun e => { e with studio := some (e.studio.getD s.studio) } }

/-- Moves on to a new composer with the options of the session. -/
def unshare (s : Session) : Except Failure Unit × Session :=
  match s.options.registry s.settings with
  | .error e => (.error e, s)
  | .ok registry => (.ok (), s.moveOn registry s.live)

/-- The options of a composer that is made besides: if no reader is given it reads from the file
system, which is that of the session if the session has one. -/
def besides (s : Session) (options : Options) (hasReader : Bool) : Options × Bool :=
  match s.store with
  | .disk tree =>
    if hasReader then ({ options with workDir := s.options.workDir }, false)
    else ({ options with workDir := s.options.workDir, reader := .ok (.disk tree) }, true)
  | _ => ({ options with workDir := s.options.workDir }, false)

/-- Moves on to a composer that shares the cache, which leaves no room for other options.  A value
may be passed in place of the cache: if it is none, the composer gets a cache of its own.  The
result says whether the registry is still the same. -/
def share (s : Session) (cache : Option Value) (options : Options) (reader : Value) :
    Except Failure Bool × Session :=
  match cache with
  | some .none =>
    let hasReader := match reader with
      | .none => false
      | _ => true
    let (options, live) := s.besides options hasReader
    match options.registry s.settings with
    | .error e => (.error e, s)
    | .ok registry => (.ok false, s.moveOn registry live)
  | some v => (.error (Argument.refuse "cache" "EffectCache" v.kindName), s)
  | none =>
    if !options.declarations.isEmpty || options.baseDir.truth || options.extension.truth ||
        reader.truth || !options.includeBuiltin then
      (.error (.misuse .sharedCacheWithOptions), s)
    else (.ok true, s)

end Session

end ShaderCompose
