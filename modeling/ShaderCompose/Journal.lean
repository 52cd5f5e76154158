import ShaderCompose.Text.Basic

/-!
# The journal

What an operation reports while it runs.  Every record has a severity, and records below the level
in force are dropped.
-/

set_option autoImplicit false

namespace ShaderCompose

/-- How serious a record is. -/
inductive Severity where
  | debug
  | warning
  | error
deriving DecidableEq, Repr

/-- The rank of a severity on the scale of levels. -/
def Severity.rank : Severity → Int
  | .debug => 10
  | .warning => 30
  | .error => 40

/-- One report. -/
structure LogRecord where
  severity : Severity
  message : Text
deriving DecidableEq, Repr

/-- Reports in the order in which they were made. -/
abbrev Journal := List LogRecord

/-- The level that counts if none is set. -/
def Journal.inheritedLevel : Int := 30

/-- The records at or above a level; level zero stands for the inherited one. -/
def Journal.atLevel (level : Int) (journal : Journal) : Journal :=
  let least := if level = 0 then inheritedLevel else level
  journal.filter fun record => decide (least ≤ record.severity.rank)

end ShaderCompose
