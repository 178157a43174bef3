import Rulebook.Text.Similar

/-!
# Switches

The switches of the command line. Each has a long name; two have a letter too. A switch may take a
value. `Switch.named?` finds the switch with a long name, and `Switch.similar` lists the long names
that are close to a word.
-/

namespace Rulebook.CommandLine

/-- A switch of the command line. -/
inductive Switch where
  | root
  | config
  | strict
  | lenient
  | verbose
  | help
  deriving DecidableEq, Repr

namespace Switch

/-- All switches. -/
def all : List Switch :=
  [root, config, strict, lenient, verbose, help]

/-- The long name of a switch. -/
def name : Switch → String
  | root => "--root"
  | config => "--config"
  | strict => "--strict"
  | lenient => "--lenient"
  | verbose => "--verbose"
  | help => "--help"

/-- The letter of a switch, if it has one. -/
def letter? : Switch → Option Char
  | verbose => some 'v'
  | help => some 'h'
  | _ => none

/-- The switch with a long name. -/
def named? (name : String) : Option Switch :=
  all.find? fun s => s.name = name

/-- The switch with a letter. -/
def lettered? (c : Char) : Option Switch :=
  all.find? fun s => s.letter? = some c

/-- The long names that are close to a word, the closest first. -/
def similar (word : String) : List String :=
  Text.closest (all.map name) word

end Switch

end Rulebook.CommandLine
