import Rulebook.CommandLine.Arguments
import Rulebook.FileTree.Host

/-!
# Requests

A `Request` is what the arguments ask for: help, or a run with the paths and flags for it. Of a
switch that is given more than once the last one counts. A request for help is granted whatever the
other switches say. Otherwise the paths must be of the right sort where they exist, and the process
must be allowed to read what they lead to; the one that was named first is looked at first, and
there must be no extra arguments. A path that cannot be looked up is left for later.
-/

namespace Rulebook.CommandLine

/-- What to run the checks on, and how. -/
structure Task where
  /-- The root, as it was written. -/
  root : Option String := none
  /-- The settings file, as it was written. -/
  config : Option String := none
  /-- Whether the run is strict, where that is said. -/
  strict : Option Bool := none
  /-- Whether each file is listed. -/
  verbose : Bool := false
  deriving DecidableEq, Repr, Inhabited

/-- What the arguments ask for. -/
inductive Request where
  | help
  | lint (task : Task)
  deriving DecidableEq, Repr

/-- Why arguments ask for nothing. -/
inductive UsageError where
  | unread (error : ReadError)
  /-- The root is a file. -/
  | rootIsFile (value : String)
  /-- The root may not be read. -/
  | rootUnreadable (value : String)
  /-- The settings file is a folder. -/
  | configIsFolder (value : String)
  /-- The settings file may not be read. -/
  | configUnreadable (value : String)
  /-- There are extra arguments. -/
  | extraArguments (args : List String)
  deriving DecidableEq, Repr

namespace Task

/-- Takes a switch over. -/
def take (t : Task) : Given → Task
  | .root value => { t with root := some value }
  | .config value => { t with config := some value }
  | .strict on => { t with strict := some on }
  | .verbose => { t with verbose := true }
  | .help => t

/-- The task that switches describe. -/
def ofGiven (given : List Given) : Task :=
  given.foldl take {}

end Task

namespace Request

/-- What is wrong with a written path: it leads to an entry that is `unfit`, or to one that may not
be read. -/
def pathFault? (h : Host) (unfit : Entry → Bool) (isUnfit isUnreadable : String → UsageError)
    (value : String) : Option UsageError :=
  match h.entryAt? value with
  | none => none
  | some e =>
    if unfit e then some (isUnfit value)
    else if h.mayRead value then none
    else some (isUnreadable value)

/-- What is wrong with the root of a task. -/
def rootFault? (h : Host) (task : Task) : Option UsageError :=
  task.root.bind (pathFault? h Entry.isFile .rootIsFile .rootUnreadable)

/-- What is wrong with the settings file of a task. -/
def configFault? (h : Host) (task : Task) : Option UsageError :=
  task.config.bind (pathFault? h Entry.isFolder .configIsFolder .configUnreadable)

/-- Whether the settings file is named before the root. -/
def configFirst : List Given → Bool
  | [] => false
  | .config _ :: _ => true
  | .root _ :: _ => false
  | _ :: rest => configFirst rest

/-- What is wrong with the paths of a task. -/
def fault? (h : Host) (given : List Given) : Option UsageError :=
  let task := Task.ofGiven given
  if configFirst given then (configFault? h task).or (rootFault? h task)
  else (rootFault? h task).or (configFault? h task)

/-- What arguments ask for. -/
def ofArguments (h : Host) (a : Arguments) : Except UsageError Request :=
  if .help ∈ a.given then .ok .help
  else
    match fault? h a.given with
    | some e => .error e
    | none =>
      if a.extra = [] then .ok (.lint (.ofGiven a.given)) else .error (.extraArguments a.extra)

/-- Reads what arguments ask for. -/
def read (h : Host) (args : List String) : Except UsageError Request :=
  match Arguments.read args with
  | .ok a => ofArguments h a
  | .error e => .error (.unread e)

end Request

end Rulebook.CommandLine
