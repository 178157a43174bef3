/-!
# Escape sequences

A terminal takes an escape character, an opening bracket, parameters and a letter for a command.
`dropEscapes` takes these sequences out of a text and leaves everything else alone. Sequences of
other forms, such as those that end in no letter, are none here.
-/

namespace Rulebook.Text

/-- The escape character. -/
def escapeCharacter : Char := '\x1b'

/-- A character of the parameters of an escape sequence. -/
def isParameter (c : Char) : Bool :=
  c.isDigit || c = ';' || c = '?'

/-- What follows the escape sequence whose part after the bracket starts here, if there is one. -/
def afterSequence? (s : List Char) : Option (List Char) :=
  match s.dropWhile isParameter with
  | c :: rest => if c.isAlpha then some rest else none
  | [] => none

theorem afterSequence?_length {s rest : List Char} (h : afterSequence? s = some rest) :
    rest.length < s.length := by
  have hle := (List.dropWhile_suffix isParameter (l := s)).length_le
  rw [afterSequence?] at h
  split at h
  · next c r hr =>
    rw [hr] at hle
    split at h
    · cases h; exact hle
    · cases h
  · cases h

/-- Takes the escape sequences out of a text. -/
def dropEscapes : List Char → List Char
  | [] => []
  | [c] => [c]
  | c :: d :: s =>
    if c = escapeCharacter && d = '[' then
      match _h : afterSequence? s with
      | some rest => dropEscapes rest
      | none => c :: dropEscapes (d :: s)
    else c :: dropEscapes (d :: s)
termination_by s => s.length
decreasing_by
  · have := afterSequence?_length _h; simp only [List.length_cons]; omega
  · simp
  · simp

end Rulebook.Text
