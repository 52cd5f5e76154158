import ShaderCompose.Text.Basic

/-!
# Slash-separated paths

Cutting, joining and normalising paths.  Normalisation drops empty and single-dot parts, resolves
double dots against the part before them, and keeps the root: none, one slash, or exactly two.
-/

set_option autoImplicit false

namespace ShaderCompose.Path

/-- The part after the last slash. -/
def lastPart (path : Text) : Text := (path.reverse.takeWhile (· ≠ '/')).reverse

/-- Everything up to and including the last slash. -/
def leadingPart (path : Text) : Text := (path.reverse.dropWhile (· ≠ '/')).reverse

/-- The directory of a path: what stands before the last part, without the slashes between the
two, unless there is nothing but slashes. -/
def directory (path : Text) : Text :=
  let leading := leadingPart path
  if leading.all (· = '/') then leading else Text.dropEndWhile (· = '/') leading

/-- Whether a path starts at the root. -/
def isAbsolute (path : Text) : Bool := path.head? == some '/'

/-- A path taken relative to another one. -/
def join (base path : Text) : Text :=
  if isAbsolute path then path
  else if base.isEmpty || base.getLast? == some '/' then base ++ path
  else base ++ '/' :: path

/-- The part that stands for the enclosing directory. -/
def parent : Text := ['.', '.']

/-- The named parts of a path: those that are neither empty nor a single dot. -/
def parts (path : Text) : List Text :=
  (Text.pieces '/' path).filter fun part => !part.isEmpty && part != ['.']

/-- The slashes at the start that normalisation keeps. -/
def root : Text → Text
  | '/' :: '/' :: '/' :: _ => ['/']
  | '/' :: '/' :: _ => ['/', '/']
  | '/' :: _ => ['/']
  | _ => []

/-- One step down a path whose parts so far are kept in reverse.  A double dot takes back the last
part; above the root there is nothing, and above a relative start the double dots pile up. -/
def descend (absolute : Bool) (kept : List Text) (part : Text) : List Text :=
  if part = parent then
    match kept with
    | [] => if absolute then [] else [part]
    | last :: before => if last = parent then part :: kept else before
  else
    part :: kept

/-- The parts of a path with its double dots resolved. -/
def resolvedParts (path : Text) : List Text :=
  ((parts path).foldl (descend (isAbsolute path)) []).reverse

/-- The shortest spelling of a path; the empty path is a single dot. -/
def normalize (path : Text) : Text :=
  let spelling := root path ++ Text.joinWith ['/'] (resolvedParts path)
  if spelling.isEmpty then ['.'] else spelling

/-- A working directory, which is a path from the root on. -/
def rooted (workDir : Text) : Text := join ['/'] workDir

/-- The normalised path, read from a working directory if it is relative. -/
def absolute (workDir path : Text) : Text := normalize (join (rooted workDir) path)

end ShaderCompose.Path
