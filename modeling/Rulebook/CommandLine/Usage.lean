import Rulebook.CommandLine.Request

/-!
# Usage

The text of the help page, and the words for arguments that ask for nothing. Most of these errors
come with two lines that show the usage; a switch with a needless or a missing value comes alone.
-/

namespace Rulebook.CommandLine

/-- The first line of the help page. -/
def usageLine : String :=
  "Usage: rulelint [OPTIONS]"

/-- The lines of the help page. -/
def helpLines : List String :=
  [usageLine,
    "",
    "  Validate frontmatter of rule files under the configs directory.",
    "",
    "Options:",
    "  --root DIRECTORY      Configs directory to lint (defaults to the bundled",
    "                        configs/).",
    "  --config FILE         YAML settings file (defaults to",
    "                        <root>/.rulelint.yaml).",
    "  --strict / --lenient  Also check descriptions, activation keys and glob",
    "                        shapes.",
    "  -v, --verbose         List every visited file.",
    "  -h, --help            Show this message and exit."]

/-- Lines as one text, each with a line feed. -/
def page (lines : List String) : String :=
  String.join (lines.map (· ++ "\n"))

namespace ReadError

/-- The hint at names that are similar to an unknown one. Several are listed in order of the
alphabet. -/
def hint : List String → String
  | [] => ""
  | [name] => " Did you mean " ++ Text.quote name ++ "?"
  | names =>
    let sorted := names.mergeSort fun a b => a ≤ b
    " (Possible options: " ++ ", ".intercalate (sorted.map Text.quote) ++ ")"

/-- An error in words. -/
def message : ReadError → String
  | unknown name similar => "No such option " ++ Text.quote name ++ "." ++ hint similar
  | needlessValue name => "Option " ++ Text.quote name ++ " does not take a value."
  | missingValue name => "Option " ++ Text.quote name ++ " requires an argument."

/-- Whether an error shows the usage. -/
def showsUsage : ReadError → Bool
  | unknown _ _ => true
  | needlessValue _ => false
  | missingValue _ => false

end ReadError

namespace UsageError

/-- An error in words. -/
def message : UsageError → String
  | unread e => e.message
  | rootIsFile value =>
    "Invalid value for '--root': Directory " ++ Text.quote value ++ " is a file."
  | rootUnreadable value =>
    "Invalid value for '--root': Directory " ++ Text.quote value ++ " is not readable."
  | configIsFolder value =>
    "Invalid value for '--config': File " ++ Text.quote value ++ " is a directory."
  | configUnreadable value =>
    "Invalid value for '--config': File " ++ Text.quote value ++ " is not readable."
  | extraArguments args =>
    "Got unexpected extra argument" ++ (if args.length = 1 then "" else "s") ++
      " (" ++ " ".intercalate args ++ ")"

/-- Whether an error shows the usage. -/
def showsUsage : UsageError → Bool
  | unread e => e.showsUsage
  | _ => true

/-- The lines that come before an error. -/
def usageLines (e : UsageError) : List String :=
  if e.showsUsage then [usageLine, "Try 'rulelint --help' for help.", ""] else []

end UsageError

end Rulebook.CommandLine
