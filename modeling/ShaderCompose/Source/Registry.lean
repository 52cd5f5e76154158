import ShaderCompose.Journal
import ShaderCompose.Source.Reader

/-!
# The registry of sources

The registry maps logical names to source files, by its declarations or else by a default location
under a base directory, and reads their text.
-/

set_option autoImplicit false

namespace ShaderCompose

/-- Where sources are declared, looked for by default, and read from.  Earlier declarations take
precedence over later ones. -/
structure Registry (ρ : Type := Reader) where
  declarations : List Declaration
  baseDir : Text
  extension : Text
  reader : ρ
  workDir : Text

/-- The text of a content, without a byte order mark. -/
def ReadOutcome.decode : ReadOutcome → Except Text.Utf8.Invalid Text
  | .text t => .ok t
  | .bytes data => Text.Utf8.decode (Text.Utf8.dropMark data)
  | _ => .ok []

namespace Registry

variable {ρ : Type} [SourceReader ρ]

/-- The registry with one more declaration, behind all others. -/
def declare (r : Registry ρ) (d : Declaration) : Registry ρ :=
  { r with declarations := r.declarations ++ [d] }

/-- The first declaration for a name. -/
def findDeclaration (r : Registry ρ) (name : Text) : Option Declaration :=
  r.declarations.find? (·.isFor name)

/-- The path at which a source is looked for if its location is not declared. -/
def defaultLocation (r : Registry ρ) (name : Text) : Text :=
  let path := Path.join (Path.join r.baseDir (Path.directory name)) (Path.lastPart name)
  Path.normalize (if r.extension.isEmpty then path else path ++ '.' :: r.extension)

/-- The first of some source files that exists, or else the failure to find it. -/
def firstExisting (r : Registry ρ) (name : Text) (candidates : List SourceFile) (detail : Text) :
    Except Failure SourceFile :=
  match candidates.find? (SourceReader.has r.reader) with
  | some file => .ok file
  | none => .error (.effect (.sourceNotFound name (some detail)))

/-- A file with the given name at a location. -/
def fileAt (r : Registry ρ) (name location : Text) : SourceFile := ⟨name, location, none, r.workDir⟩

/-- The source file for a name in which backslashes count as slashes.  An embedded source is not
checked for existence; a declared location is tried as it is and then under the base directory. -/
def resolve (r : Registry ρ) (requested : Text) : Except Failure SourceFile :=
  let name := Text.replaceChar '\\' '/' requested
  match r.findDeclaration name with
  | some ⟨_, place, some package⟩ =>
    (Argument.expectText? "package" package).map fun owner =>
      ⟨name, place.getD [], owner, r.workDir⟩
  | some ⟨_, some (c :: rest), none⟩ =>
    let place := c :: rest
    let joined := Path.join r.baseDir place
    r.firstExisting name [r.fileAt name place, r.fileAt name (Path.normalize joined)]
      ("declared at '".toList ++ place ++ "' or '".toList ++ joined ++ ['\''])
  | _ =>
    let place := r.defaultLocation name
    r.firstExisting name [r.fileAt name place]
      ("no declaration and no file at '".toList ++ place ++ ['\''])

/-- The text of a source. -/
def read (r : Registry ρ) (file : SourceFile) : Except Failure Text :=
  match SourceReader.read r.reader file with
  | .failed f =>
    if f.kind.isInputOutput then
      .error (.effect (.sourceUnavailable file f.message (some f.kind)))
    else
      .error (.fault f)
  | .missing =>
    match file.package with
    | some package =>
      .error (.effect (.sourceUnavailable file
        ("resource not found in package '".toList ++ package ++ ['\'']) none))
    | none =>
      .error (.effect (.sourceNotFound file.logicalName
        (some ("no source at '".toList ++ file.location ++ ['\'']))))
  | .other kind => .error (.misuse (.lacksMember kind "startswith".toList))
  | content =>
    match content.decode with
    | .ok t => .ok t
    | .error _ =>
      .error (.effect (.sourceUnavailable file "not valid utf-8".toList (some .undecodable)))

/-- What reading a source reports: faults of input and output. -/
def readJournal (r : Registry ρ) (file : SourceFile) : Journal :=
  match SourceReader.read r.reader file with
  | .failed f =>
    if f.kind.isInputOutput then
      [⟨.error, "Error while reading effect source ".toList ++ Text.quoted file.identity⟩]
    else []
  | _ => []

/-- A registry as it is shown to people. -/
def summary (r : Registry ρ) : Text :=
  "<SourceRegistry with ".toList ++ Text.ofNat r.declarations.length ++
    " declarations in ".toList ++ Text.quoted r.baseDir ++ ['>']

end Registry

end ShaderCompose
