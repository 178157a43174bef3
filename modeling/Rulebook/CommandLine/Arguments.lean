import Rulebook.CommandLine.Switch
import Rulebook.Text.Quoted

/-!
# Reading arguments

An argument that starts with a dash and is more than a dash names switches, and every other one is
extra. A long name may bring its value with it, after an equals sign; otherwise a switch that takes
a value takes the argument that follows, whatever it looks like. After a single dash stand letters,
each the letter of a switch without a value. Behind `--` all arguments are extra.

The arguments are read from left to right, and the first one that cannot be read is the error.

This is the argument parser of `rulelint` for the switches that it has: long names are not
shortened, values are not taken from the environment, and no file with arguments is read.
-/

namespace Rulebook.CommandLine

/-- A switch as it was given, with its value where it takes one. -/
inductive Given where
  | root (value : String)
  | config (value : String)
  | strict (on : Bool)
  | verbose
  | help
  deriving DecidableEq, Repr

/-- Why arguments cannot be read. -/
inductive ReadError where
  /-- No switch has this name; these are similar. -/
  | unknown (name : String) (similar : List String)
  /-- The switch takes no value, but is given one. -/
  | needlessValue (name : String)
  /-- The switch takes a value, but nothing follows. -/
  | missingValue (name : String)
  deriving DecidableEq, Repr

/-- What was read: the switches and the extra arguments, each in order. -/
structure Arguments where
  given : List Given := []
  extra : List String := []
  deriving DecidableEq, Repr, Inhabited

namespace Switch

/-- What a switch without a value gives, or how one with a value goes on. -/
def toGiven : Switch → Given ⊕ (String → Given)
  | root => .inr .root
  | config => .inr .config
  | strict => .inl (.strict true)
  | lenient => .inl (.strict false)
  | verbose => .inl .verbose
  | help => .inl .help

end Switch

namespace Arguments

/-- What a single argument says. -/
inductive Reading where
  /-- The argument is extra. -/
  | extra
  /-- The arguments behind are extra. -/
  | terminator
  /-- The argument gives these switches. -/
  | complete (given : List Given)
  /-- The argument names a switch whose value is to follow. -/
  | incomplete (name : String) (go : String → Given)
  /-- The argument cannot be read. -/
  | wrong (error : ReadError)

/-- Reads letters behind a single dash. -/
def readLetters : List Char → Except ReadError (List Given)
  | [] => .ok []
  | c :: rest =>
    let unknown : Except ReadError (List Given) := .error (.unknown (String.ofList ['-', c]) [])
    match Switch.lettered? c with
    | none => unknown
    | some s =>
      match s.toGiven with
      | .inl g => (readLetters rest).map (g :: ·)
      | .inr _ => unknown

/-- Cuts a text at its first equals sign. -/
def cutEquals (s : List Char) : List Char × Option (List Char) :=
  match s.dropWhile (· ≠ '=') with
  | [] => (s, none)
  | _ :: value => (s.takeWhile (· ≠ '='), some value)

/-- Reads one argument. What has two dashes, or is the long name of a switch, is read as such, and
what has one dash is read letter by letter. -/
def readOne (arg : String) : Reading :=
  match arg.toList with
  | ['-', '-'] => .terminator
  | '-' :: c :: rest =>
    let (name, value?) := cutEquals arg.toList
    let name := String.ofList name
    match Switch.named? name with
    | some s =>
      match s.toGiven, value? with
      | .inl g, none => .complete [g]
      | .inl _, some _ => .wrong (.needlessValue name)
      | .inr go, some value => .complete [go (String.ofList value)]
      | .inr go, none => .incomplete name go
    | none =>
      if c = '-' then .wrong (.unknown name (Switch.similar name))
      else
        match readLetters (c :: rest) with
        | .ok gs => .complete gs
        | .error e => .wrong e
  | _ => .extra

/-- Puts switches in front. -/
def give (gs : List Given) (a : Arguments) : Arguments :=
  { a with given := gs ++ a.given }

/-- Puts an extra argument in front. -/
def keep (arg : String) (a : Arguments) : Arguments :=
  { a with extra := arg :: a.extra }

/-- Reads arguments. -/
def read : List String → Except ReadError Arguments
  | [] => .ok {}
  | arg :: rest =>
    match readOne arg with
    | .extra => (read rest).map (keep arg)
    | .terminator => .ok { extra := rest }
    | .complete gs => (read rest).map (give gs)
    | .incomplete name go =>
      match rest with
      | [] => .error (.missingValue name)
      | value :: rest => (read rest).map (give [go value])
    | .wrong e => .error e

end Arguments

end Rulebook.CommandLine
