import Rulebook.Report
import Rulebook.Validation
import Rulebook.Walk

/-!
# Running the checks on a file tree

A `Run` walks a tree and reads and validates each file as soon as the walk finds it. The first
problem, be it with a folder or with a file, ends the run; what was observed until then stays. Each
file that was read is observed together with whether it was skipped.

This is the runner of `rulelint`, with the observer as a list of what it is told.
-/

namespace Rulebook

/-- A file that a run has dealt with. -/
structure Observation where
  path : Path
  skipped : Bool
  deriving DecidableEq, Repr, Inhabited

/-- A run: the walk it is on, and what it has so far. -/
structure Run where
  settings : Settings
  walk : Walk
  results : Results := {}
  observed : List Observation := []
  deriving Repr, Inhabited

namespace Run

/-- How a run has ended: what it has observed, and its results or the problem that ended it. -/
structure Outcome where
  observed : List Observation
  results : Except Problem Results

/-- A run that has not begun. -/
def start (settings : Settings) (root : Path) : Run :=
  { settings, walk := { root, extension := settings.extension } }

/-- Adds a file with its text. -/
def visit (r : Run) (path : Path) (text : String) : Run :=
  let root := some r.walk.root
  { r with
    results := r.results.record path (r.settings.validate root path text)
    observed := r.observed ++ [⟨path, r.settings.skips root path⟩] }

/-- One step of a run: a step of its walk, and the file that it finds. -/
def step (t : FileTree) (r : Run) : Run ⊕ Outcome :=
  match r.walk.step t with
  | (.moved, walk) => .inl { r with walk }
  | (.found path, walk) =>
    match t.readText path with
    | .ok text => .inl ({ r with walk }.visit path text)
    | .error fault => .inr ⟨r.observed, .error (.ruleFile path (fault.message path))⟩
  | (.ended, _) => .inr ⟨r.observed, .ok r.results⟩
  | (.failed problem, _) => .inr ⟨r.observed, .error problem⟩

/-- Steps to the end of a run, at most `bound` times. -/
def finishWithin (t : FileTree) : Nat → Run → Outcome
  | 0, r => ⟨r.observed, .ok r.results⟩
  | bound + 1, r =>
    match r.step t with
    | .inl r' => finishWithin t bound r'
    | .inr outcome => outcome

end Run

/-- Validates every rule file below a root. -/
def Settings.run (settings : Settings) (t : FileTree) (root : Path) : Run.Outcome :=
  Run.finishWithin t (Walk.bound t) (Run.start settings root)

end Rulebook
