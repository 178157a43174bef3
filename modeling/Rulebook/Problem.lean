import Rulebook.Path

/-!
# Problems that end a run

A `Problem` is about one path and ends the run that meets it. Its `kind` is the most special name
for it; `Kind.broader` lists the more general ones, so a handler can ask for any of them.

The fault behind a problem is kept in words only.
-/

namespace Rulebook

/-- A reason to end a run. -/
inductive Problem where
  /-- Something is wrong with a file, in the words of `message`. -/
  | file (path : Path) (message : String)
  /-- A folder, which is called `noun`, cannot be listed. -/
  | folder (path : Path) (detail : String) (noun : String)
  /-- The folder that a run starts at cannot be listed. -/
  | rootFolder (path : Path) (detail : String)
  /-- A rule file cannot be read. -/
  | ruleFile (path : Path) (detail : String)
  /-- A settings file says something that is not allowed. -/
  | settings (path : Path) (detail : String)
  deriving DecidableEq, Repr, Inhabited

namespace Problem

/-- The path that a problem is about. -/
def path : Problem → Path
  | file path _ => path
  | folder path _ _ => path
  | rootFolder path _ => path
  | ruleFile path _ => path
  | settings path _ => path

/-- The cause of a problem, where it has one. -/
def detail? : Problem → Option String
  | file _ _ => none
  | folder _ detail _ => some detail
  | rootFolder _ detail => some detail
  | ruleFile _ detail => some detail
  | settings _ detail => some detail

/-- What is wrong, without the path. -/
def message : Problem → String
  | file _ message => message
  | folder _ detail noun => "Cannot read " ++ noun ++ " (" ++ detail ++ ")"
  | rootFolder _ detail => "Cannot read configs directory (" ++ detail ++ ")"
  | ruleFile _ detail => "Cannot read rule file (" ++ detail ++ ")"
  | settings _ detail => "Invalid lint config (" ++ detail ++ ")"

/-- A problem in words. -/
def describe (p : Problem) : String :=
  p.message ++ ": " ++ p.path.toString

/-- What a folder below the root is called. -/
def folderNoun : String := "directory"

/-- The names for problems, from the most general one on. -/
inductive Kind where
  | any
  | file
  | folder
  | rootFolder
  | ruleFile
  | settings
  deriving DecidableEq, Repr

/-- The most special name for a problem. -/
def kind : Problem → Kind
  | file _ _ => .file
  | folder _ _ _ => .folder
  | rootFolder _ _ => .rootFolder
  | ruleFile _ _ => .ruleFile
  | settings _ _ => .settings

/-- The more general names for problems of a kind, nearest first. -/
def Kind.broader : Kind → List Kind
  | any => []
  | file => [any]
  | folder => [file, any]
  | rootFolder => [folder, file, any]
  | ruleFile => [file, any]
  | settings => [file, any]

end Problem

end Rulebook
