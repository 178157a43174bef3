import Rulebook.Text.Blank

/-!
# The lines of a frontmatter block

Each line is read on its own. `Line.classify` says which of five kinds it is: blank lines and
comments are passed over, a key at the first column either carries a value or opens a list, a
dash starts a list item, and everything else is not understood.

The grammar is stated for lines, but `classify` answers for any text. A line feed inside the text
is a blank that a value cannot contain: a key line tolerates one at its very end, an item only
among the blanks around its value.

This is the line classifier of `rulelint`, all of it. Its two patterns are tried here by hand,
without going back.
-/

namespace Rulebook.Frontmatter

open Text

/-- What a line of frontmatter says. -/
inductive Line where
  /-- A blank line or a comment. -/
  | ignored
  /-- A key with a value. -/
  | scalar (key value : String)
  /-- A key with nothing after its colon, which opens a list. -/
  | openList (key : String)
  /-- An item for the list that is open. -/
  | item (value : String)
  /-- Anything else. -/
  | unrecognized
  deriving DecidableEq, Repr

/-! ### Quotes -/

/-- The two characters that may wrap a value. -/
def isQuote (c : Char) : Bool :=
  c = '"' || c = '\''

/-- Removes one pair of matching quotes around a value. -/
def unquote (value : List Char) : List Char :=
  match value with
  | [] => []
  | first :: rest =>
    if isQuote first && rest.getLast? == some first then rest.dropLast else value

/-! ### Keys -/

/-- The characters that a key may start with: ASCII letters, digits and the underscore. -/
def isKeyStart (c : Char) : Bool :=
  c.isAlphanum || c = '_'

/-- The characters of a key after its first: those it may start with, and the hyphen. -/
def isKeyChar (c : Char) : Bool :=
  isKeyStart c || c = '-'

/-- Splits a line that starts with a key and a colon into the key and what follows the colon. -/
def splitKey? (line : List Char) : Option (List Char × List Char) :=
  match line.takeWhile isKeyChar, line.dropWhile isKeyChar with
  | start :: key, ':' :: rest => if isKeyStart start then some (start :: key, rest) else none
  | _, _ => none

/-- Whether a text holds no line feed, except perhaps as its last character. -/
def isOneLine (s : List Char) : Bool :=
  s.dropLast.all fun c => c ≠ '\n'

/-! ### Items -/

/-- What follows the dash of a line whose first character after any blanks is a dash. -/
def afterDash? (line : List Char) : Option (List Char) :=
  match trimStart line with
  | '-' :: rest => some rest
  | _ => none

/-- The value of an item, from what follows its dash. Where that is blank, the last blank other
than a line feed stands for the value. -/
def itemValue? (rest : List Char) : Option (List Char) :=
  match trim rest with
  | [] => (rest.filter fun c => c ≠ '\n').getLast?.map fun c => [c]
  | value => if value.all fun c => c ≠ '\n' then some (unquote value) else none

/-! ### Classification -/

/-- Reads a line that is neither blank nor a comment nor a key line. -/
def Line.classifyItem (line : List Char) : Line :=
  match (afterDash? line).bind itemValue? with
  | some value => .item (String.ofList value)
  | none => .unrecognized

/-- The kind of a line, with its key and its value. -/
def Line.classify (line : List Char) : Line :=
  match trim line with
  | [] => .ignored
  | '#' :: _ => .ignored
  | _ =>
    match splitKey? line with
    | some (key, rest) =>
      if isOneLine rest then
        match trim rest with
        | [] => .openList (String.ofList key)
        | value => .scalar (String.ofList key) (String.ofList (unquote value))
      else .classifyItem line
    | none => .classifyItem line

end Rulebook.Frontmatter
