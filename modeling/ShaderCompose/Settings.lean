import ShaderCompose.Journal
import ShaderCompose.Text.Blank
import ShaderCompose.Text.Case
import ShaderCompose.Text.Digit

/-!
# Settings

The surroundings decide where effect files are looked for, what extension they have, and how much
is reported.
-/

set_option autoImplicit false

namespace ShaderCompose

/-- The settings that the surroundings give, each of which may be absent. -/
structure Settings where
  shaderDirectory : Option Text
  shaderExtension : Option Text
  logLevel : Option Text
  home : Text
  /-- The home directories of users by name. -/
  accounts : List (Text × Text)
deriving Repr

namespace Settings

/-- The directory of effect files if none is set. -/
def defaultDirectory : Text := "Data/Shaders".toList

/-- The extension of effect files if none is set. -/
def defaultExtension : Text := "glsl".toList

/-- A home directory with what follows it in a path. -/
def underHome (home rest : Text) : Text :=
  let path := Text.dropEndWhile (· = '/') home ++ rest
  if path.isEmpty then ['/'] else path

/-- A path whose leading tilde, alone or with a user's name, is replaced by a home directory.  A
user that is not known leaves the path as it is. -/
def expandHome (settings : Settings) : Text → Text
  | '~' :: path =>
    let user := path.takeWhile (· ≠ '/')
    let rest := path.dropWhile (· ≠ '/')
    if user.isEmpty then underHome settings.home rest
    else match settings.accounts.lookup user with
      | some home => underHome home rest
      | none => '~' :: path
  | path => path

/-- The directory that default locations start from. -/
def directory (settings : Settings) : Text :=
  match settings.shaderDirectory with
  | none => defaultDirectory
  | some [] => defaultDirectory
  | some path => settings.expandHome path

/-- An extension without the dots in front of it. -/
def dropDots (extension : Text) : Text := extension.dropWhile (· = '.')

/-- The extension of default locations. -/
def extension (settings : Settings) : Text :=
  match dropDots (Text.strip (settings.shaderExtension.getD [])) with
  | [] => defaultExtension
  | ext => ext

/-- The levels that have a name. -/
def namedLevels : List (Text × Int) :=
  [("CRITICAL".toList, 50), ("FATAL".toList, 50), ("ERROR".toList, 40), ("WARN".toList, 30),
   ("WARNING".toList, 30), ("INFO".toList, 20), ("DEBUG".toList, 10), ("NOTSET".toList, 0)]

/-- The level in force if none is set. -/
def defaultLevel : Int := 30

/-- The most digits a number may be written with. -/
def digitLimit : Nat := 4300

/-- The level that a text stands for: a number in decimal digits of any script, or a name in any
letter case. -/
def parseLevel? (t : Text) : Option Int :=
  if t.all Text.isNumeric then
    if t.all Text.isDigit && decide (t.length ≤ digitLimit) then some (Text.numberOf t) else none
  else
    namedLevels.lookup (Text.upper t)

/-- The level in force and what there is to report about it. -/
def level (settings : Settings) : Int × Journal :=
  match settings.logLevel with
  | none => (defaultLevel, [])
  | some [] => (defaultLevel, [])
  | some t =>
    match parseLevel? t with
    | some level => (level, [])
    | none => (defaultLevel, [⟨.warning, "Invalid glfx log level: ".toList ++ t⟩])

end Settings

end ShaderCompose
