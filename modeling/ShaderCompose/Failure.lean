import ShaderCompose.Fault
import ShaderCompose.Source.File
import ShaderCompose.Template.Error
import ShaderCompose.Value.Display

/-!
# Failures

Every way in which an operation of this library can end without a result, and the one place where
these causes are put into words.
-/

set_option autoImplicit false

namespace ShaderCompose

/-- What can go wrong with effects: finding, reading, composing and filling them in. -/
inductive EffectError where
  | sourceNotFound (requested : Text) (detail : Option Text)
  | sourceUnavailable (file : SourceFile) (reason : Text) (cause : Option FaultKind)
  | sectionNotFound (identity sectionKey : Text) (effectKey : Option Text)
  | cyclicInclude (chain : List Text)
  | invalidKey (key : Text)
  | template (message : Text)
  | general (message : Text)
deriving DecidableEq, Repr

/-! ## Wording -/

namespace Wording

/-- A message with a remark in parentheses, if there is one. -/
def withRemark (message : Text) : Option Text → Text
  | none => message
  | some [] => message
  | some remark => message ++ " (".toList ++ remark ++ [')']

/-- How a source that is not found is described. -/
def sourceNotFound (requested : Text) (detail : Option Text) : Text :=
  withRemark ("Effect source not found: '".toList ++ requested ++ ['\'']) detail

/-- How a source that cannot be read is described. -/
def sourceUnavailable (file : SourceFile) (reason : Text) : Text :=
  "Cannot read effect source ".toList ++ Text.quoted file.identity ++ ": ".toList ++ reason

/-- How a section that is not found is described; the identity of the effect is given as it is
shown. -/
def sectionNotFound (identity sectionKey : Text) (effectKey : Option Text) : Text :=
  withRemark
    ("No section matching '".toList ++ sectionKey ++ "' in effect ".toList ++ identity)
    (match effectKey with
      | none => none
      | some [] => none
      | some key => some ("requested as '".toList ++ key ++ ['\'']))

/-- How includes that come back to where they started are described. -/
def cyclicInclude (chain : List Text) : Text :=
  "Cyclic include: ".toList ++ Text.joinWith " -> ".toList chain

/-- How an effect key that cannot be taken apart is described. -/
def invalidKey (key : Text) : Text :=
  "Invalid effect key '".toList ++ key ++ "', expected '<source name>.<section key>'".toList

end Wording

/-- The description of an effect error. -/
def EffectError.message : EffectError → Text
  | sourceNotFound requested detail => Wording.sourceNotFound requested detail
  | sourceUnavailable file reason _ => Wording.sourceUnavailable file reason
  | sectionNotFound identity sectionKey effectKey =>
    Wording.sectionNotFound (Text.quoted identity) sectionKey effectKey
  | cyclicInclude chain => Wording.cyclicInclude chain
  | invalidKey key => Wording.invalidKey key
  | template message => message
  | general message => message

/-- An argument of a kind that an operation does not take. -/
structure Mismatch where
  argument : Option Text
  expected : List Text
  optional : Bool
  got : Text
deriving DecidableEq, Repr

/-- The description of a mismatch. -/
def Mismatch.message (m : Mismatch) : Text :=
  "Expected".toList ++
    (match m.argument with
      | none => []
      | some [] => []
      | some name => " '".toList ++ name ++ "' to be".toList) ++
    " an instance of ".toList ++ Text.joinWith " | ".toList m.expected ++
    (if m.optional then " or None".toList else []) ++
    ", but got ".toList ++ m.got ++ " object.".toList

/-- A use of this library that makes no sense. -/
inductive Misuse where
  | embeddedWithoutPackage (name : Text)
  | sharedCacheWithOptions
  | noStages
  | expanderUsedTwice
  | notReader (value : Text)
  | notHashable (kind : Text)
  | readOnly
  | call (e : CallError)
  /-- A file index, given as it is shown, beyond the source files there are. -/
  | fileIndexOutOfRange (index : Text) (count : Nat)
  /-- A key, given as it is shown, under which nothing is kept. -/
  | noSuchKey (key : Text)
  | noKinds
  | notKind
  | lacksMember (kind member : Text)
  | notSearchable (kind : Text)
  | bytesToSearch
  | notPath (kind : Text)
  | notTemplate
  | tooManyDigits (count : Nat)
deriving DecidableEq, Repr

/-- The description of a misuse. -/
def Misuse.message : Misuse → Text
  | embeddedWithoutPackage name =>
    "Embedded source '".toList ++ name ++ "' needs a package to load from.".toList
  | sharedCacheWithOptions =>
    "A ShaderComposer with a shared cache uses the registry of that cache.".toList
  | noStages => "Cannot compose a program without shader stages.".toList
  | expanderUsedTwice => "An IncludeExpander can only be used once.".toList
  | notReader value =>
    "The source reader must be a SourceReader, function, or dict. Not ".toList ++ value
  | notHashable kind => "unhashable type: '".toList ++ kind ++ ['\'']
  | readOnly => "Cannot modify ReadOnlyDict".toList
  | call e => e.message
  | fileIndexOutOfRange index count =>
    "File index ".toList ++ index ++ " out of range for ".toList ++ Text.ofNat count ++
      " source files.".toList
  | noSuchKey key => key
  | noKinds => "tuple index out of range".toList
  | notKind => "isinstance() arg 2 must be a type, a tuple of types, or a union".toList
  | lacksMember kind member =>
    ['\''] ++ kind ++ "' object has no attribute '".toList ++ member ++ ['\'']
  | notSearchable kind => "expected string or bytes-like object, got '".toList ++ kind ++ ['\'']
  | bytesToSearch => "cannot use a string pattern on a bytes-like object".toList
  | notPath kind => "expected str, bytes or os.PathLike object, not ".toList ++ kind
  | notTemplate => "Can't compile non template nodes".toList
  | tooManyDigits count =>
    "Exceeds the limit (4300 digits) for integer string conversion: value has ".toList ++
      Text.ofNat count ++
      " digits; use sys.set_int_max_str_digits() to increase the limit".toList

/-- Why an operation has no result. -/
inductive Failure where
  | effect (e : EffectError)
  | fault (f : Fault)
  | mismatch (m : Mismatch)
  | misuse (m : Misuse)
  | evaluation (e : Template.EvalError)
  /-- Includes are nested deeper than there are sections to include; this never happens. -/
  | nesting
deriving DecidableEq, Repr

/-- The description of a failure. -/
def Failure.message : Failure → Text
  | effect e => e.message
  | fault f => f.message
  | mismatch m => m.message
  | misuse m => m.message
  | evaluation e => e.message
  | nesting => "includes nested too deeply".toList

end ShaderCompose
