import Rulebook.Text.Blank
import Rulebook.Text.Lines

/-!
# The frontmatter block of a rule file

A rule file may open with a block of metadata between two delimiter lines. `block?` finds it: the
first line of the text has to be the delimiter, the block ends at the next line that is the
delimiter, and a text without such a pair has no block. Carriage returns at the end of a line
belong to the line ending, so they neither hide a delimiter nor reach the block.

This is the extractor of `rulelint`, all of it, for any delimiter.
-/

namespace Rulebook.Frontmatter

open Text

/-- The line that opens and closes a frontmatter block. -/
def defaultDelimiter : String := "---"

/-- A line without the carriage returns at its end. -/
def chomp (line : List Char) : List Char :=
  dropEndWhile (fun c => c == '\r') line

/-- The lines before the first delimiter line, without their line endings, provided that there is
such a line. -/
def linesBefore? (delimiter : List Char) : List (List Char) → Option (List (List Char))
  | [] => none
  | line :: rest =>
    if chomp line = delimiter then some []
    else (linesBefore? delimiter rest).map (chomp line :: ·)

/-- The text between a delimiter on the first line and the next delimiter line. -/
def block? (delimiter text : String) : Option String :=
  match lines text.toList with
  | [] => none
  | first :: rest =>
    if chomp first = delimiter.toList then
      (linesBefore? delimiter.toList rest).map fun ls => String.ofList (unlines ls)
    else none

end Rulebook.Frontmatter
