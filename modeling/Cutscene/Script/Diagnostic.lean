set_option relaxedAutoImplicit false
set_option autoImplicit false

/-!
# Diagnostics

What there is to say about a script: errors, which keep a scene from being played, and warnings
about steps that play but do nothing to be seen.

## Main definitions

* `Cutscene.Severity` — error or warning.
* `Cutscene.Diagnostic` — a message, with the file it is about.
-/

namespace Cutscene

/-- How serious a diagnostic is. -/
inductive Severity where
  /-- Something cannot be played. -/
  | error
  /-- Something plays, but hardly as it is meant. -/
  | warning
  deriving DecidableEq, Repr

/-- The name of a severity. -/
def Severity.name : Severity → String
  | error => "error"
  | warning => "warning"

/-- A message about a script. -/
structure Diagnostic where
  /-- How serious it is. -/
  severity : Severity
  /-- The name of the file it is about, if there is one. -/
  file : Option String
  /-- What there is to say. -/
  message : String
  deriving DecidableEq, Repr

namespace Diagnostic

/-- Whether a diagnostic is an error. -/
def isError (d : Diagnostic) : Bool := d.severity == .error

/-- A diagnostic on one line: how serious it is, the file, the message. -/
def display (d : Diagnostic) : String :=
  d.severity.name ++ ": " ++ (d.file.elim "" (· ++ ": ")) ++ d.message

end Diagnostic

end Cutscene
