import Rulebook.Check
import Rulebook.Frontmatter.Block

/-!
# Validating one file

`Settings.validate` takes the path and the text of a file and says what is wrong with it. Files
with an exempt name and files in a skills folder are skipped. A file without frontmatter gets a
warning, unless it lies in the shared area. Otherwise the checks are made on its metadata. Folders
are judged by their path below the root, where the file lies below it.

Two things could stop a validation: an item that is misplaced in the block, and a path pattern that
is no text. `Settings.validate?` is the validation that refuses both.
-/

namespace Rulebook

open Frontmatter

/-- The names of the folders that a file lies in, below the root if it lies there. -/
def foldersOf (root : Option Path) (path : Path) : List String :=
  (path.under root).parts.dropLast

/-- Whether a list has `run` as a stretch of consecutive members. -/
def containsRun (run : List String) : List String → Bool
  | [] => run.isEmpty
  | x :: xs => run.isPrefixOf (x :: xs) || containsRun run xs

/-- The warning about a file without frontmatter. -/
def noFrontmatterFinding : Finding :=
  ⟨.warning, "no frontmatter found"⟩

namespace Settings

/-- Whether a file is not checked at all. -/
def skips (s : Settings) (root : Option Path) (path : Path) : Bool :=
  s.exemptFilenames.contains path.name || (foldersOf root path).contains s.skillsSegment

/-- Whether a file lies in the shared area. -/
def shares (s : Settings) (root : Option Path) (path : Path) : Bool :=
  containsRun s.sharedRulesArea (foldersOf root path)

/-- The findings about the frontmatter block of a file. -/
def findings (s : Settings) (block : String) : List Finding :=
  s.checks.flatMap fun c => c.findings (Metadata.parse block) (Metadata.parse_isPlain block)

/-- What is wrong with a file. -/
def validate (s : Settings) (root : Option Path) (path : Path) (text : String) :
    List Diagnostic :=
  if s.skips root path then []
  else
    match block? defaultDelimiter text with
    | none => if s.shares root path then [] else [noFrontmatterFinding.at path]
    | some block => (s.findings block).map fun f => f.at path

end Settings

/-! ### Validation that may stumble -/

/-- What a validation can stumble over. -/
inductive Refusal where
  /-- An item that no list can take. -/
  | misplaced (cause : Misplaced)
  /-- A path pattern that is no text. -/
  | notText (cause : Check.NotText)

namespace Settings

/-- The findings about the frontmatter block of a file, unless something in it is refused. -/
def findings? (s : Settings) (block : String) : Except Refusal (List Finding) := do
  let m ← (Metadata.parse? block).mapError .misplaced
  let found ← s.checks.mapM fun c => (c.run m).mapError .notText
  return found.flatten

/-- What is wrong with a file, unless something in it is refused. -/
def validate? (s : Settings) (root : Option Path) (path : Path) (text : String) :
    Except Refusal (List Diagnostic) :=
  if s.skips root path then .ok []
  else
    match block? defaultDelimiter text with
    | none => .ok (if s.shares root path then [] else [noFrontmatterFinding.at path])
    | some block => (s.findings? block).map fun fs => fs.map fun f => f.at path

end Settings

end Rulebook
