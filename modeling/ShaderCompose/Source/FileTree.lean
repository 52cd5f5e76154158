import ShaderCompose.Fault
import ShaderCompose.Path
import ShaderCompose.Text.Utf8

/-!
# File trees

A file system without links: files by the parts of their absolute path, and the folders there are.
Looking up a path walks it part by part, so every part on the way has to be a folder.
-/

set_option autoImplicit false

namespace ShaderCompose

/-- Files and folders by the parts of their path. -/
structure FileTree where
  files : List (List Text × List UInt8)
  folders : List (List Text)
deriving DecidableEq, Repr

namespace FileTree

/-- What stands at a path. -/
inductive Found where
  | file (data : List UInt8)
  | folder (place : List Text)
  | absent
  | belowFile
  | nameTooLong
deriving DecidableEq, Repr

/-- The tree with nothing but a root. -/
def empty : FileTree := ⟨[], []⟩

/-- Whether there is a folder at a place; the root always is one. -/
def hasFolder (tree : FileTree) (place : List Text) : Bool :=
  place.isEmpty || tree.folders.contains place

/-- The most bytes a part of a path may have. -/
def longestName : Nat := 255

/-- The most bytes a path may have. -/
def longestPath : Nat := 4095

/-- Walks the pieces of a path from a folder on. -/
def walk (tree : FileTree) (place : List Text) : List Text → Found
  | [] => .folder place
  | piece :: rest =>
    if piece.isEmpty || piece == ['.'] then tree.walk place rest
    else if piece == Path.parent then tree.walk place.dropLast rest
    else if longestName < (Text.Utf8.encode piece).length then .nameTooLong
    else
      let next := place ++ [piece]
      match tree.files.lookup next with
      | some data => if rest.isEmpty then .file data else .belowFile
      | none => if tree.hasFolder next then tree.walk next rest else .absent

/-- What stands at a path, read from a working directory if it is relative. -/
def find (tree : FileTree) (workDir path : Text) : Found :=
  if path.isEmpty then .absent
  else if longestPath < (Text.Utf8.encode path).length then .nameTooLong
  else
    tree.walk (if Path.isAbsolute path then [] else Path.resolvedParts (Path.rooted workDir))
      (Text.pieces '/' path)

/-- The folders above a place, the topmost first. -/
def ancestors (place : List Text) : List (List Text) :=
  (List.range place.length).map fun n => place.take n

/-- What keeps a file from being written at a path: a folder that is there, or a file on the way.
If the file stands right where the folder of the new one should be, that folder cannot be made. -/
def obstacle? (tree : FileTree) (workDir path : Text) : Option Fault :=
  let place := Path.resolvedParts (Path.absolute workDir path)
  if tree.hasFolder place then some (.folderAt path)
  else match (ancestors place).find? fun folder => (tree.files.lookup folder).isSome with
    | none => none
    | some folder =>
      if folder.length + 1 = place.length then some (.occupiedAt path)
      else some (.belowFileAt path)

/-- The tree with a file written at a path; missing folders are made. -/
def write (tree : FileTree) (workDir path : Text) (data : List UInt8) : FileTree :=
  let place := Path.resolvedParts (Path.absolute workDir path)
  let made := (ancestors place).filter fun folder => !tree.hasFolder folder
  { files := (tree.files.filter fun entry => entry.1 != place) ++ [(place, data)]
    folders := tree.folders ++ made }

/-- The tree without the file at a path. -/
def erase (tree : FileTree) (workDir path : Text) : FileTree :=
  let place := Path.resolvedParts (Path.absolute workDir path)
  { tree with files := tree.files.filter fun entry => entry.1 != place }

end FileTree

end ShaderCompose
