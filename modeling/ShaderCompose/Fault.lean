import ShaderCompose.Text.Quoted

/-!
# Faults of the surroundings

What can go wrong outside this library while a source is read.  Faults of input and output are
reported as an unavailable source; all others pass through unchanged.
-/

set_option autoImplicit false

namespace ShaderCompose

/-- The kind of a fault. -/
inductive FaultKind where
  | inputOutput
  | permission
  | missingEntry
  | isDirectory
  | notDirectory
  | fileExists
  | interrupted
  | blocking
  | brokenPipe
  | connectionAborted
  | connectionRefused
  | connectionReset
  | childProcess
  | processLookup
  | timedOut
  | undecodable
  | invalidValue
  | runtime
  | unimplemented
deriving DecidableEq, Repr

/-- Whether a fault belongs to input and output. -/
def FaultKind.isInputOutput : FaultKind → Bool
  | .undecodable | .invalidValue | .runtime | .unimplemented => false
  | _ => true

/-- The kind of fault that a system error number stands for. -/
def FaultKind.ofErrorNumber : Nat → FaultKind
  | 1 | 13 => .permission
  | 2 => .missingEntry
  | 3 => .processLookup
  | 4 => .interrupted
  | 10 => .childProcess
  | 11 | 114 | 115 => .blocking
  | 17 => .fileExists
  | 20 => .notDirectory
  | 21 => .isDirectory
  | 32 | 108 => .brokenPipe
  | 103 => .connectionAborted
  | 104 => .connectionReset
  | 110 => .timedOut
  | 111 => .connectionRefused
  | _ => .inputOutput

/-- A fault with its description. -/
structure Fault where
  kind : FaultKind
  message : Text
deriving DecidableEq, Repr

/-- A description that starts with a system error number. -/
def Fault.numbered (number : Int) (description : Text) : Text :=
  "[Errno ".toList ++ Text.ofInt number ++ "] ".toList ++ description

/-- A fault that was raised with a number: a system error number for a fault of input and output,
which then stands in front of the description, and part of the description for others. -/
def Fault.raised (kind : FaultKind) (number : Int) (description : Text) : Fault :=
  ⟨kind,
    if kind.isInputOutput then Fault.numbered number description
    else '(' :: (Text.ofInt number ++ ", ".toList ++ Text.quoted description ++ [')'])⟩

/-- A fault of input and output at a path. -/
def Fault.atPath (number : Nat) (description : String) (path : Text) : Fault :=
  ⟨.ofErrorNumber number,
    Fault.numbered number (description.toList ++ ": ".toList ++ Text.quoted path)⟩

/-- A path leads to a folder where a file is asked for. -/
def Fault.folderAt : Text → Fault := Fault.atPath 21 "Is a directory"

/-- A path leads on below a file. -/
def Fault.belowFileAt : Text → Fault := Fault.atPath 20 "Not a directory"

/-- A path is already taken. -/
def Fault.occupiedAt : Text → Fault := Fault.atPath 17 "File exists"

/-- A path leads nowhere. -/
def Fault.nothingAt : Text → Fault := Fault.atPath 2 "No such file or directory"

/-- A path, or a part of it, is longer than a file system takes. -/
def Fault.tooLongAt : Text → Fault := Fault.atPath 36 "File name too long"

end ShaderCompose
