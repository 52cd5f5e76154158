import ShaderCompose.Source.Declaration
import ShaderCompose.Source.FileTree
import ShaderCompose.Text.Lines

/-!
# The effect that comes with the library

One effect file with constants and small functions, embedded in a package of its own.
-/

set_option autoImplicit false

namespace ShaderCompose.Builtin

/-- The package that holds the effect. -/
def package : Text := "glfx.shaders".toList

/-- The name of the effect's file in the package. -/
def fileName : Text := "glfx.glsl".toList

/-- The lines of the effect. -/
def lines : List String :=
  ["Builtin effect of glfx. Include sections with e.g. \"#include glfx.Math.Constants\".",
   "",
   "-- Version",
   "#version 330 core",
   "",
   "-- Math.Constants",
   "const float PI = 3.14159265358979;",
   "const float TWO_PI = 6.28318530717959;",
   "const float HALF_PI = 1.57079632679490;",
   "const float EPSILON = 1e-6;",
   "",
   "-- Math.Util",
   "float saturate(float x) \x7b",
   "    return clamp(x, 0.0, 1.0);",
   "\x7d",
   "",
   "vec3 saturate(vec3 x) \x7b",
   "    return clamp(x, vec3(0.0), vec3(1.0));",
   "\x7d",
   "",
   "-- Color.Srgb",
   "vec3 srgb_to_linear(vec3 c) \x7b",
   "    vec3 lo = c / 12.92;",
   "    vec3 hi = pow((c + 0.055) / 1.055, vec3(2.4));",
   "    return mix(lo, hi, step(vec3(0.04045), c));",
   "\x7d",
   "",
   "vec3 linear_to_srgb(vec3 c) \x7b",
   "    vec3 lo = c * 12.92;",
   "    vec3 hi = 1.055 * pow(c, vec3(1.0 / 2.4)) - 0.055;",
   "    return mix(lo, hi, step(vec3(0.0031308), c));",
   "\x7d",
   "",
   "-- Lighting.Lambert",
   "#include glfx.Math.Util",
   "float lambert(vec3 normal, vec3 light_dir) \x7b",
   "    return saturate(dot(normalize(normal), normalize(light_dir)));",
   "\x7d"]

/-- The text of the effect. -/
def content : Text := Text.joinLines (lines.map String.toList)

/-- The declaration of the effect. -/
def declarations : List Declaration := [⟨"glfx".toList, some fileName, some (.text package)⟩]

/-- The folder of an embedded package. -/
def packageFolder? (package : Text) : Option (List Text) :=
  if package = "glfx".toList then some ["glfx".toList]
  else if package = "glfx.shaders".toList then some ["glfx".toList, "shaders".toList]
  else none

/-- The folders of the embedded packages with the files in them. -/
def resources : FileTree :=
  { files := [(["glfx".toList, "shaders".toList, fileName], Text.Utf8.encode content)]
    folders := [["glfx".toList], ["glfx".toList, "shaders".toList]] }

/-- What stands at a path that is read from the folder of the package. -/
def find (path : Text) : FileTree.Found :=
  if Path.isAbsolute path then FileTree.empty.walk [] (Path.parts path)
  else resources.walk ["glfx".toList, "shaders".toList] (Path.parts path)

/-- The text of a file of the package. -/
def load (path : Text) : Except Failure Text :=
  if path.contains '\x00' then .error (.fault ⟨.invalidValue, "embedded null byte".toList⟩)
  else match find path with
    | .file _ => .ok content
    | .folder _ => .error (.fault (.folderAt path))
    | .absent => .error (.fault (.nothingAt path))
    | .belowFile => .error (.fault (.belowFileAt path))
    | .nameTooLong => .error (.fault (.tooLongAt path))

/-- The text of the file of the package that an argument names, which has to be a text. -/
def loadArgument (path : Value) : Except Failure Text := do
  Argument.expectKey path
  match path with
  | .text t => load t
  | v => throw (.evaluation (.badOperands "/".toList "PosixPath".toList v.kindName))

end ShaderCompose.Builtin
