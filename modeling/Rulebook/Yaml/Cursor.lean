/-!
# A cursor in YAML text

YAML is read by looking at the next characters and moving on. A `Cursor` holds the characters that
are left and where they stand: how many characters came before, on which line and at which column.
The text has no carriage returns; a line ends at a line feed, a next-line character or one of the
two Unicode separators.
-/

namespace Rulebook.Yaml

/-- The characters that end a line. -/
def isBreak (c : Char) : Bool :=
  c = '\n' || c.toNat = 0x85 || c.toNat = 0x2028 || c.toNat = 0x2029

/-- A place in a text. -/
structure Cursor where
  /-- The characters from here on. -/
  rest : List Char
  /-- The number of characters before. -/
  index : Nat := 0
  /-- The number of lines before. -/
  line : Nat := 0
  /-- The number of characters before on the line, where a byte order mark counts nothing. -/
  column : Nat := 0
  deriving DecidableEq, Repr, Inhabited

namespace Cursor

/-- The next character. -/
def peek (c : Cursor) : Option Char :=
  c.rest.head?

/-- The character after a number of others. -/
def peekAt (c : Cursor) (n : Nat) : Option Char :=
  c.rest[n]?

/-- Moves over one character. -/
def advance (c : Cursor) : Cursor :=
  match c.rest with
  | [] => c
  | x :: rest =>
    if isBreak x then ⟨rest, c.index + 1, c.line + 1, 0⟩
    else ⟨rest, c.index + 1, c.line, if x = '\uFEFF' then c.column else c.column + 1⟩

/-- Moves over a number of characters. -/
def advanceBy : Nat → Cursor → Cursor
  | 0, c => c
  | n + 1, c => advanceBy n c.advance

/-- The longest run of characters that satisfy `p`, and the cursor behind it. -/
def takeWhile (p : Char → Bool) (c : Cursor) : List Char × Cursor :=
  let run := c.rest.takeWhile p
  (run, c.advanceBy run.length)

/-- Moves over the longest run of characters that satisfy `p`. -/
def skipWhile (p : Char → Bool) (c : Cursor) : Cursor :=
  (c.takeWhile p).2

/-- Moves over spaces. -/
def skipSpaces (c : Cursor) : Cursor :=
  c.skipWhile (· = ' ')

/-- Moves over a comment to the end of its line. -/
def skipComment (c : Cursor) : Cursor :=
  if c.peek = some '#' then c.skipWhile fun x => !isBreak x else c

/-- Reads a line ending: a line feed stands for itself and for a next-line character, the two
separators stand for themselves. -/
def lineBreak? (c : Cursor) : Option (Char × Cursor) :=
  match c.peek with
  | some x =>
    if isBreak x then some (if x.toNat = 0x85 then '\n' else x, c.advance) else none
  | none => none

/-- Moves over the given character. -/
def skip? (x : Char) (c : Cursor) : Option Cursor :=
  if c.peek = some x then some c.advance else none

/-! ### What stands at a place -/

/-- The end of a line or of the text. -/
def endsLine (x : Option Char) : Bool :=
  match x with
  | none => true
  | some x => isBreak x

/-- A space, or the end of a line or of the text. -/
def isGap (x : Option Char) : Bool :=
  x = some ' ' || endsLine x

/-- A space or a tab, or the end of a line or of the text. -/
def isWideGap (x : Option Char) : Bool :=
  x = some '\t' || isGap x

/-- Whether a document marker stands here: three times the same mark, and nothing else before a
gap. -/
def atMarker (mark : Char) (c : Cursor) : Bool :=
  c.rest.take 3 = [mark, mark, mark] && isWideGap (c.peekAt 3)

/-- Whether a marker that starts or ends a document stands here. -/
def atAnyMarker (c : Cursor) : Bool :=
  c.atMarker '-' || c.atMarker '.'

end Cursor

end Rulebook.Yaml
