import Rulebook.Path

/-!
# Findings and diagnostics

A check has findings: a severity and a message. A diagnostic is a finding about a file.
-/

namespace Rulebook

/-- How bad a finding is. Only errors make a run fail. -/
inductive Severity where
  | warning
  | error
  deriving DecidableEq, Repr, Inhabited

/-- What a check has to say about metadata. -/
structure Finding where
  severity : Severity
  message : String
  deriving DecidableEq, Repr, Inhabited

/-- What a run has to say about a file. -/
structure Diagnostic where
  path : Path
  severity : Severity
  message : String
  deriving DecidableEq, Repr, Inhabited

/-- A finding about the file at a path. -/
def Finding.at (f : Finding) (path : Path) : Diagnostic :=
  ⟨path, f.severity, f.message⟩

end Rulebook
