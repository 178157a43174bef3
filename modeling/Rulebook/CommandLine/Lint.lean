import Rulebook.Bundled
import Rulebook.CommandLine.Usage
import Rulebook.Console
import Rulebook.Run
import Rulebook.Settings.Load
import Rulebook.Text.Escapes

/-!
# The lint command

`CommandLine.run` reads the arguments, carries out what they ask for on a host, and says what is
written to both outputs and how the command exits: with 0 if all is well, with 1 if there are errors
in rules, and with 2 if the command could not do its work. What is written to the second output is a
message in one piece, without escape sequences.

There are two ways in which a command ends without an exit code of its own. Settings that are no
text, or at which their reader gives up, are one. A refusal to look up the settings file or the root
is the other.

Host, reader and emoji are parameters. Left out are faults in writing the outputs, and interruptions
from outside.
-/

namespace Rulebook.CommandLine

variable [Text.EmojiTable]

/-- Why a command ends without an exit code. -/
inductive Breakdown where
  /-- The settings cannot be loaded, and that is no problem. -/
  | settings (failure : Settings.LoadFailure)
  /-- A path cannot be looked up. What was written until then stays. -/
  | refused (path : Path) (refusal : Host.Refusal) (stdout : String := "")
  deriving DecidableEq, Repr

/-- A breakdown in words. -/
def Breakdown.message : Breakdown → String
  | settings failure => failure.message
  | refused path refusal _ => refusal.message path

/-- What was written before a breakdown. -/
def Breakdown.stdout : Breakdown → String
  | settings _ => ""
  | refused _ _ stdout => stdout

/-- What a command leaves behind. -/
structure Output where
  exitCode : Nat := 0
  stdout : String := ""
  stderr : String := ""
  deriving DecidableEq, Repr, Inhabited

namespace Output

/-- The output of a command that could not do its work. The lines of `before` come in front of the
message. -/
def failure (message : String) (stdout : String := "") (before : List String := []) : Output :=
  let text := page (before ++ ["Error: " ++ message])
  { exitCode := 2, stdout, stderr := String.ofList (Text.dropEscapes text.toList) }

/-- The output of a command that a problem has ended. -/
def fatal (p : Problem) (stdout : String := "") : Output :=
  failure ("Fatal: " ++ p.describe) stdout

end Output

namespace Task

/-- The root of a task, which is the folder of the bundled rules if none is named. -/
def rootPath (task : Task) : Path :=
  match task.root with
  | some value => Path.ofString value
  | none => Bundled.root

/-- The name of the settings file in a root. -/
def settingsName : String := ".rulelint.yaml"

/-- The settings file of a task, which is in the root if none is named. -/
def configPath (task : Task) : Path :=
  match task.config with
  | some value => Path.ofString value
  | none => task.rootPath.child settingsName

/-- The settings file that is named but is not there. -/
def missingConfig? (t : FileTree) (task : Task) : Option Path :=
  match task.config with
  | some value => if t.exists? (Path.ofString value) then none else some (Path.ofString value)
  | none => none

/-- Loaded settings with the flags of a task. -/
def adjust (task : Task) (s : Settings) : Settings :=
  { s with strict := task.strict.getD s.strict }

/-- What is written about the files of a run as it goes on: nothing, unless the task is verbose. -/
def traces (task : Task) (observed : List Observation) : String :=
  if task.verbose then
    String.join (observed.map fun o =>
      ({} : Console).trace (o.path.display (some task.rootPath)) o.skipped)
  else ""

/-- What is written about the results of a run. -/
def reportText (task : Task) (r : Results) : String :=
  String.join ((r.report (some task.rootPath) ++ [OutputLine.blank]).map ({} : Console).line)

/-- What is written at the start of a run. -/
def header (task : Task) : String :=
  ({} : Console).header task.rootPath task.verbose

/-- What a run with given settings leaves behind. -/
def outputWith (t : FileTree) (task : Task) (s : Settings) : Output :=
  let outcome := (task.adjust s).run t task.rootPath
  let start := task.header ++ task.traces outcome.observed
  match outcome.results with
  | .ok r => { exitCode := r.summary.exitCode, stdout := start ++ task.reportText r }
  | .error p => .fatal p start

/-- Carries out a run with given settings. -/
def start (h : Host) (task : Task) (s : Settings) : Except Breakdown Output :=
  match h.refusalAt? task.rootPath with
  | some refusal => .error (.refused task.rootPath refusal task.header)
  | none => .ok (task.outputWith h.tree s)

/-- Carries out a task. -/
def perform (h : Host) (task : Task) (reader : Settings.Reader := .standard) :
    Except Breakdown Output :=
  match h.refusalAt? task.configPath with
  | some refusal => .error (.refused task.configPath refusal)
  | none =>
    match task.missingConfig? h.tree with
    | some path => .ok (.failure ("Config file not found: " ++ path.toString))
    | none =>
      match Settings.load h.tree (some task.configPath) {} reader with
      | .ok s => task.start h s
      | .error (.problem p) => .ok (.fatal p)
      | .error failure => .error (.settings failure)

end Task

/-- Carries out a command. -/
def run (h : Host) (args : List String) (reader : Settings.Reader := .standard) :
    Except Breakdown Output :=
  match Request.read h args with
  | .ok .help => .ok { stdout := page helpLines }
  | .ok (.lint task) => task.perform h reader
  | .error e => .ok (.failure e.message "" e.usageLines)

end Rulebook.CommandLine
