import Rulebook.Text.Printable

/-!
# Quoted text

`quote` shows a text on one line, in quotes, so that it can be told from everything around it. The
quotes are single ones unless the text holds a single quote and no double one; the quote that is
used, the backslash and every character that is not printable are escaped.
-/

namespace Rulebook.Text

/-- The last `width` hexadecimal digits of a number. -/
def hexDigits : Nat → Nat → List Char
  | 0, _ => []
  | width + 1, n => hexDigits width (n / 16) ++ [Nat.digitChar (n % 16)]

/-- The escape of a character that is not printable: a short name if it has one, and otherwise its
code point in as few of two, four or eight hexadecimal digits as hold it. -/
def escape (c : Char) : List Char :=
  if c = '\n' then ['\\', 'n']
  else if c = '\r' then ['\\', 'r']
  else if c = '\t' then ['\\', 't']
  else if c.toNat < 0x100 then '\\' :: 'x' :: hexDigits 2 c.toNat
  else if c.toNat < 0x10000 then '\\' :: 'u' :: hexDigits 4 c.toNat
  else '\\' :: 'U' :: hexDigits 8 c.toNat

/-- One character of a text between two `delimiter`s. -/
def quoteChar (delimiter c : Char) : List Char :=
  if c = delimiter || c = '\\' then ['\\', c]
  else if isPrintable c then [c]
  else escape c

/-- The quote to put around a text. -/
def delimiterFor (s : List Char) : Char :=
  if s.contains '\'' && !s.contains '"' then '"' else '\''

/-- A text in quotes. -/
def quoteChars (s : List Char) : List Char :=
  let delimiter := delimiterFor s
  delimiter :: s.flatMap (quoteChar delimiter) ++ [delimiter]

/-- A text in quotes. -/
def quote (s : String) : String :=
  String.ofList (quoteChars s.toList)

example : quoteChars ['i', 't', '\'', 's'] = ['"', 'i', 't', '\'', 's', '"'] := by decide +kernel

example : quoteChars ['\n', '"', '\''] = ['\'', '\\', 'n', '"', '\\', '\'', '\''] := by
  decide +kernel

end Rulebook.Text
