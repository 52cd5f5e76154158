import ShaderCompose.Builtin

/-!
# Readers

A reader says whether a source exists and provides its content.  A registry may have any kind of
reader: `SourceReader` is what it asks of one.  The readers of type `Reader` are those whose sources
can be listed, so that an expansion can tell beforehand how far it may go; they can also be changed
while they are in use.  A function that is asked for every source file is a reader as well, and
need not end anywhere.
-/

set_option autoImplicit false

namespace ShaderCompose

/-- What reading a source gives: text, bytes, nothing, something of a kind that is no content, or a
fault. -/
inductive ReadOutcome where
  | text (t : Text)
  | bytes (data : List UInt8)
  | missing
  | other (kind : Text)
  | failed (f : Fault)
deriving DecidableEq, Repr

/-- What a registry asks of a reader. -/
class SourceReader (ρ : Type) where
  /-- Whether a reader has a source, as far as it can tell without reading it. -/
  has : ρ → SourceFile → Bool
  /-- The content of a source. -/
  read : ρ → SourceFile → ReadOutcome
  /-- The locations that are touched by reading a source. -/
  touched : ρ → SourceFile → List Text

/-- A function of source files is asked for any source, with its name, location and package. -/
instance : SourceReader (SourceFile → ReadOutcome) where
  has _ _ := true
  read answer file := answer file
  touched _ file := [file.location]

/-- Contents by location, in the order in which the locations came up first. -/
abbrev Shelf := List (Text × ReadOutcome)

namespace Shelf

/-- The shelf with a content at a location, in place of what was there. -/
def put (shelf : Shelf) (location : Text) (content : ReadOutcome) : Shelf :=
  if shelf.any (·.1 == location) then
    shelf.map fun entry => if entry.1 == location then (location, content) else entry
  else
    shelf ++ [(location, content)]

/-- The shelf without a location. -/
def drop (shelf : Shelf) (location : Text) : Shelf := shelf.filter (·.1 != location)

end Shelf

/-- Where contents come from: a table of contents, a function that is asked for any location and
looks it up, the file system with its packages, or nowhere. -/
inductive Reader where
  | table (shelf : Shelf)
  | function (shelf : Shelf)
  | disk (tree : FileTree)
  | blank
deriving Repr

namespace Reader

/-- The resource of a package at a location; empty parts and single dots do not count, and
backslashes are slashes. -/
def resource? (package location : Text) : Option (List UInt8) :=
  match Builtin.packageFolder? package with
  | none => none
  | some folder =>
    let pieces := (Text.pieces '/' (Text.replaceChar '\\' '/' location)).filter fun piece =>
      !piece.isEmpty && piece != ['.']
    match Builtin.resources.walk folder pieces with
    | .file data => some data
    | _ => none

/-- Whether a reader has a source.  Only tables and the file system can tell without reading. -/
def has (reader : Reader) (file : SourceFile) : Bool :=
  match reader with
  | .table shelf => shelf.any (·.1 == file.location)
  | .function _ => true
  | .blank => true
  | .disk tree =>
    match file.package with
    | some package => (resource? package file.location).isSome
    | none =>
      if file.location.contains '\x00' then false
      else match tree.find file.workDir file.location with
        | .file _ => true
        | _ => false

/-- The content of a source. -/
def read (reader : Reader) (file : SourceFile) : ReadOutcome :=
  match reader with
  | .table shelf => (shelf.lookup file.location).getD .missing
  | .function shelf => (shelf.lookup file.location).getD .missing
  | .blank => .failed ⟨.unimplemented, []⟩
  | .disk tree =>
    match file.package with
    | some [] => .failed ⟨.invalidValue, "Empty module name".toList⟩
    | some package =>
      match resource? package file.location with
      | some data => .bytes data
      | none => .missing
    | none =>
      if file.location.contains '\x00' then .failed ⟨.invalidValue, "embedded null byte".toList⟩
      else match tree.find file.workDir file.location with
        | .file data => .bytes data
        | .folder _ => .failed (.folderAt file.location)
        | .absent => .missing
        | .belowFile => .failed (.belowFileAt file.location)
        | .nameTooLong => .failed (.tooLongAt file.location)

/-- The locations that are touched by reading a source: those that a table holds, and all that a
function is asked for. -/
def touched (reader : Reader) (file : SourceFile) : List Text :=
  match reader with
  | .table shelf => if shelf.any (·.1 == file.location) then [file.location] else []
  | .function _ => [file.location]
  | _ => []

/-- A reader whose sources can be listed is one that a registry may have. -/
instance : SourceReader Reader := ⟨has, read, touched⟩

/-- What a reader has is told by its kind. -/
@[simp]
theorem sourceReader_has (reader : Reader) : SourceReader.has reader = reader.has := rfl

/-- What a reader gives is told by its kind. -/
@[simp]
theorem sourceReader_read (reader : Reader) : SourceReader.read reader = reader.read := rfl

/-- The reader with a content added or replaced.  A file cannot take the place of a folder. -/
def put (reader : Reader) (workDir location : Text) (content : ReadOutcome) :
    Except Failure Reader :=
  match reader with
  | .table shelf => .ok (.table (shelf.put location content))
  | .function shelf => .ok (.function (shelf.put location content))
  | .blank => .ok reader
  | .disk tree =>
    match tree.obstacle? workDir location with
    | some f => .error (.fault f)
    | none =>
      match content with
      | .text t => .ok (.disk (tree.write workDir location (Text.Utf8.encode t)))
      | .bytes data => .ok (.disk (tree.write workDir location data))
      | _ => .ok reader

/-- The reader without a content that it has. -/
def drop (reader : Reader) (workDir location : Text) : Except Failure Reader :=
  let without (shelf : Shelf) (f : Shelf → Reader) : Except Failure Reader :=
    if shelf.any (·.1 == location) then .ok (f (shelf.drop location))
    else .error (.misuse (.noSuchKey (Text.quoted location)))
  match reader with
  | .table shelf => without shelf .table
  | .function shelf => without shelf .function
  | .blank => .ok reader
  | .disk tree =>
    match tree.find workDir location with
    | .file _ => .ok (.disk (tree.erase workDir location))
    | .folder _ => .error (.fault (.folderAt location))
    | .absent => .error (.fault (.nothingAt location))
    | .belowFile => .error (.fault (.belowFileAt location))
    | .nameTooLong => .error (.fault (.tooLongAt location))

/-- The texts that a reader can provide. -/
def holdings (reader : Reader) : List Text :=
  let textOf : ReadOutcome → Option Text
    | .text t => some t
    | .bytes data => (Text.Utf8.decode (Text.Utf8.dropMark data)).toOption
    | _ => none
  match reader with
  | .table shelf => shelf.filterMap fun entry => textOf entry.2
  | .function shelf => shelf.filterMap fun entry => textOf entry.2
  | .disk tree =>
    (tree.files ++ Builtin.resources.files).filterMap fun entry => textOf (.bytes entry.2)
  | .blank => []

end Reader

end ShaderCompose
