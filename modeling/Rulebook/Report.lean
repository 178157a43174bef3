import Rulebook.Diagnostic

/-!
# Results, summaries and reports

`Results` collects what a run has seen. Its `Summary` counts files, warnings and errors and decides
the exit code. `Results.report` is the list of lines to show, each with a tag that says what kind of
line it is: first one line per diagnostic in order, then an empty line and the counts.

This is the reporter of `rulelint`; where its lines go is left to a console.
-/

namespace Rulebook

/-! ### Summaries -/

/-- The counts of a run. -/
structure Summary where
  filesChecked : Int
  warnings : Int
  errors : Int
  deriving DecidableEq, Repr, Inhabited

/-- A run is clean if it has neither warnings nor errors. -/
def Summary.isClean (s : Summary) : Bool :=
  s.warnings == 0 && s.errors == 0

/-- The exit code is 1 if there are errors; warnings do not change it. -/
def Summary.exitCode (s : Summary) : Nat :=
  if s.errors > 0 then 1 else 0

/-! ### Results -/

/-- What a run has visited and found so far. -/
structure Results where
  visited : List Path := []
  diagnostics : List Diagnostic := []
  deriving DecidableEq, Repr, Inhabited

namespace Results

/-- Adds a file and what was found about it. -/
def record (r : Results) (path : Path) (found : List Diagnostic) : Results :=
  ⟨r.visited ++ [path], r.diagnostics ++ found⟩

/-- The number of diagnostics of a severity. -/
def count (r : Results) (severity : Severity) : Nat :=
  r.diagnostics.countP fun d => d.severity = severity

/-- The counts of the results. -/
def summary (r : Results) : Summary :=
  ⟨r.visited.length, r.count .warning, r.count .error⟩

end Results

/-! ### Report lines -/

/-- What kind of line a line of output is. -/
inductive LineTag where
  | plain
  | warning
  | error
  | success
  | dim
  deriving DecidableEq, Repr, Inhabited

/-- A line of output. -/
structure OutputLine where
  tag : LineTag
  text : String
  deriving DecidableEq, Repr, Inhabited

/-- The mark in front of a diagnostic. -/
def Severity.glyph : Severity → String
  | .error => "✗"
  | .warning => "⚠"

/-- The tag of a line about a diagnostic. -/
def Severity.tag : Severity → LineTag
  | .error => .error
  | .warning => .warning

/-- A path as it is shown: relative to the root, if it lies there. -/
def Path.display (root : Option Path) (path : Path) : String :=
  (path.under root).toString

/-- The line about a diagnostic. -/
def Diagnostic.line (root : Option Path) (d : Diagnostic) : OutputLine :=
  ⟨d.severity.tag, d.severity.glyph ++ " " ++ d.path.display root ++ ": " ++ d.message⟩

/-- The empty line. -/
def OutputLine.blank : OutputLine :=
  ⟨.plain, ""⟩

/-- The lines about the counts: errors and warnings are named only where there are any, and a clean
run is praised. -/
def Summary.lines (s : Summary) : List OutputLine :=
  [.blank, ⟨.plain, "Files checked: " ++ toString s.filesChecked⟩] ++
  (if s.errors > 0 then [⟨.error, "Errors: " ++ toString s.errors⟩] else []) ++
  (if s.warnings > 0 then [⟨.warning, "Warnings: " ++ toString s.warnings⟩] else []) ++
  (if s.isClean then [⟨.success, "✓ All rules are valid!"⟩] else [])

/-- The lines that report results. -/
def Results.report (r : Results) (root : Option Path) : List OutputLine :=
  r.diagnostics.map (Diagnostic.line root) ++ r.summary.lines

end Rulebook
