/-!
# Settings

The names and switches that a run goes by, with their defaults.
-/

namespace Rulebook

/-- The settings of a run. -/
structure Settings where
  /-- What the name of a rule file ends in. -/
  extension : String := ".md"
  /-- The names of files that are not checked. -/
  exemptFilenames : List String := ["CLAUDE.md"]
  /-- The name of a folder whose files are not checked. -/
  skillsSegment : String := "skills"
  /-- The folders, one in the other, whose files may do without frontmatter. -/
  sharedRulesArea : List String := ["_shared", "rules"]
  /-- Whether to check more than the shape of `paths`. -/
  strict : Bool := false
  /-- The keys that a strict run expects. -/
  knownKeys : List String :=
    ["description", "paths", "alwaysApply", "name", "version", "argument-hint"]
  /-- The patterns that a strict run refuses because they match every file. -/
  catchAllPatterns : List String := ["**/*", "**", "*"]
  deriving DecidableEq, Repr, Inhabited

end Rulebook
