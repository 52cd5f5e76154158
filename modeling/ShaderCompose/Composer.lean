import ShaderCompose.Argument
import ShaderCompose.CompilerLog
import ShaderCompose.Expansion
import ShaderCompose.Settings
import ShaderCompose.Template.Render

/-!
# Composing shader code

A composer expands effect keys against its registry and cache, and fills in the result as a
template if variables are given.
-/

set_option autoImplicit false

namespace ShaderCompose

/-- Composed code, with the source files by file index and the warnings on the way. -/
structure Composed where
  effectKey : Text
  code : Text
  files : List SourceFile
  warnings : List Warning
deriving DecidableEq, Repr

namespace Composed

/-- The same composition with other code. -/
def withCode (c : Composed) (code : Text) : Composed := { c with code }

/-- The locations of the source files by file index. -/
def locations (c : Composed) : List Text := c.files.map (·.location)

/-- A composition as it is shown to people. -/
def summary (c : Composed) : Text :=
  "<ComposedSource '".toList ++ c.effectKey ++ "' from ".toList ++ Text.ofNat c.files.length ++
    " files>".toList

end Composed

namespace Composer

/-- Composes the section that an effect key stands for. -/
def expandKey (r : Registry) (key : Text) (m : Memory) : Except Failure Composed × Memory :=
  match expand r key (m.report [⟨.debug, "Composing ".toList ++ key⟩]) with
  | (.error e, m) => (.error e, m)
  | (.ok result, m) => (.ok ⟨key, renderCode result.code, result.files, result.warnings⟩, m)

/-- Composes the section that an argument stands for, which has to be an effect key. -/
def expandArgument (r : Registry) (key : Value) (m : Memory) : Except Failure Composed × Memory :=
  match key with
  | .text t => expandKey r t m
  | _ =>
    (.error (Argument.refuse "effect_key" "str" key.kindName),
      m.report [⟨.debug, "Composing ".toList ++ key.display⟩])

/-- The template variables. -/
abbrev Vars := List (Text × Value)

/-- Refuses a variable that is called like an argument of the function that takes it. -/
def checkVars (function : String) (reserved : List String) (vars : Vars) : Except Failure Unit :=
  match vars.find? fun entry => reserved.any fun name => name.toList == entry.1 with
  | some entry => .error (.misuse (.call (.repeated function.toList entry.1)))
  | none => .ok ()

/-- A composition filled in with the given variables, if there are any. -/
def fillIn (c : Composed) (vars : Vars) : Except Failure Composed :=
  if vars.isEmpty then .ok c else (Template.fill c.code vars).map c.withCode

/-- Composes an effect key and fills in the result. -/
def compose (r : Registry) (key : Value) (vars : Vars) (m : Memory) :
    Except Failure Composed × Memory :=
  match checkVars "ShaderComposer.compose" ["self", "effect_key"] vars with
  | .error e => (.error e, m)
  | .ok () =>
    match expandArgument r key m with
    | (.error e, m) => (.error e, m)
    | (.ok c, m) => (fillIn c vars, m)

/-- Composes the stages of a program one after the other. -/
def composeStages (r : Registry) (vars : Vars) :
    List (Value × Value) → Memory → Except Failure (List (Value × Composed)) × Memory
  | [], m => (.ok [], m)
  | (stage, key) :: rest, m =>
    let record : LogRecord :=
      ⟨.debug, "Composing ".toList ++ stage.display ++ ": ".toList ++ key.display⟩
    match compose r key vars (m.report [record]) with
    | (.error e, m) => (.error e, m)
    | (.ok c, m) =>
      match composeStages r vars rest m with
      | (.error e, m) => (.error e, m)
      | (.ok more, m) => (.ok ((stage, c) :: more), m)

/-- Composes all stages of a program, of which there has to be one. -/
def composeProgram (r : Registry) (stages : List (Value × Value)) (vars : Vars) (m : Memory) :
    Except Failure (List (Value × Composed)) × Memory :=
  match checkVars "ShaderComposer.compose_program" ["self", "stages"] vars with
  | .error e => (.error e, m)
  | .ok () =>
    if stages.isEmpty then (.error (.misuse .noStages), m) else composeStages r vars stages m

/-- A composer as it is shown to people. -/
def summary (cache : Cache) : Text :=
  "<ShaderComposer with ".toList ++ Text.ofNat cache.size ++ " cached effects>".toList

end Composer

/-- Something passed as a declaration: one, or a value of the named kind. -/
inductive DeclarationArgument where
  | declaration (d : Declaration)
  | other (kind : Text)

/-- The declaration that was passed. -/
def DeclarationArgument.expect : DeclarationArgument → Except Failure Declaration
  | .declaration d => .ok d
  | .other kind => .error (Argument.refuse "declaration" "SourceDeclaration" kind)

/-- What a composer is made from.  Parts that are left out come from the settings. -/
structure Options where
  declarations : List DeclarationArgument
  baseDir : Value
  extension : Value
  /-- Where sources are read from, or the text of a value that is no reader. -/
  reader : Except Text Reader
  includeBuiltin : Bool
  workDir : Text

namespace Options

/-- The declarations that were passed, up to the first that is none. -/
def collect : List DeclarationArgument → Except Failure (List Declaration)
  | [] => .ok []
  | d :: rest => do
    let first ← d.expect
    let more ← collect rest
    pure (first :: more)

/-- The registry of a composer. -/
def registry (options : Options) (settings : Settings) : Except Failure Registry := do
  let own ← collect options.declarations
  let declarations := if options.includeBuiltin then own ++ Builtin.declarations else own
  let baseDir := match options.baseDir with
    | .none => settings.directory
    | v => v.display
  let extension ← match options.extension with
    | .none => pure (Settings.dropDots settings.extension)
    | v => (Argument.textWith "lstrip" v).map Settings.dropDots
  match options.reader with
  | .error value => throw (.misuse (.notReader value))
  | .ok reader => pure ⟨declarations, baseDir, extension, reader, options.workDir⟩

end Options

end ShaderCompose
