import Rulebook.Yaml.Timestamp

/-!
# YAML tags

A tag says what kind of value a node stands for. A node without a tag is a text, a list or a
mapping, except that a plain scalar is matched against the written forms of the other kinds:
`Tag.ofPlain` knows these forms.
-/

namespace Rulebook.Yaml

/-- A kind of value. -/
inductive Tag where
  | null
  | flag
  | integer
  | float
  | timestamp
  | text
  | bytes
  | sequence
  | mapping
  | set
  /-- A list of pairs with distinct keys, in order. -/
  | orderedPairs
  /-- A list of pairs. -/
  | pairs
  /-- The key that merges other mappings in. -/
  | merge
  /-- The key that marks the value of a mapping. -/
  | value
  /-- Any other kind, which stands for nothing here. -/
  | unknown
  deriving DecidableEq, Repr, Inhabited

namespace Tag

/-- What the full form of every known tag starts with. -/
def authority : String := "tag:yaml.org,2002:"

/-- The last part of each known tag. -/
def names : List (String × Tag) :=
  [("null", null), ("bool", flag), ("int", integer), ("float", float), ("timestamp", timestamp),
   ("str", text), ("binary", bytes), ("seq", sequence), ("map", mapping), ("set", set),
   ("omap", orderedPairs), ("pairs", pairs), ("merge", merge), ("value", value)]

/-- The tag with a full form. -/
def ofFull (full : String) : Tag :=
  ((names.map fun (name, tag) => (authority ++ name, tag)).lookup full).getD unknown

/-! ### The written forms of plain scalars -/

/-- The written forms of truth. -/
def truths : List String :=
  ["yes", "Yes", "YES", "true", "True", "TRUE", "on", "On", "ON"]

/-- The written forms of falsehood. -/
def falsehoods : List String :=
  ["no", "No", "NO", "false", "False", "FALSE", "off", "Off", "OFF"]

/-- The written forms of nothing. -/
def nulls : List String :=
  ["", "~", "null", "Null", "NULL"]

/-- The text behind a sign, if there is one. -/
def unsigned (s : List Char) : List Char :=
  match s with
  | '+' :: rest => rest
  | '-' :: rest => rest
  | _ => s

/-- Whether a character is a digit or an underscore. -/
def isDigitMark (x : Char) : Bool :=
  x.isDigit || x = '_'

/-- Whether a character is a hexadecimal digit or an underscore. -/
def isHexMark (x : Char) : Bool :=
  isDigitMark x || ('a' ≤ x && x ≤ 'f') || ('A' ≤ x && x ≤ 'F')

/-- Whether a character is an octal digit or an underscore. -/
def isOctalMark (x : Char) : Bool :=
  ('0' ≤ x && x ≤ '7') || x = '_'

/-- Reads groups of a colon and a number below 60 as long as there are any, at most `bound`. -/
def skipSixties : Nat → List Char → List Char
  | 0, s => s
  | bound + 1, s =>
    match s with
    | ':' :: a :: b :: rest =>
      if b.isDigit then
        if '0' ≤ a ∧ a ≤ '5' then skipSixties bound rest else s
      else if a.isDigit then skipSixties bound (b :: rest)
      else s
    | [':', a] => if a.isDigit then [] else s
    | _ => s

/-- What follows groups of a colon and a number below 60, of which there has to be one. -/
def afterSixties? (s : List Char) : Option (List Char) :=
  let rest := skipSixties s.length s
  if rest.length < s.length then some rest else none

/-- Whether a text is an integer: binary, octal, decimal, hexadecimal or in groups of sixty, with
underscores anywhere behind the first digit. -/
def isInteger (s : List Char) : Bool :=
  match unsigned s with
  | ['0'] => true
  | '0' :: 'b' :: rest => !rest.isEmpty && rest.all fun x => x = '0' || x = '1' || x = '_'
  | '0' :: 'x' :: rest => !rest.isEmpty && rest.all isHexMark
  | '0' :: rest => rest.all isOctalMark
  | x :: rest =>
    x.isDigit &&
      (rest.all isDigitMark ||
        (afterSixties? (rest.dropWhile isDigitMark) = some []))
  | [] => false

/-- Whether a text is nothing, or an exponent with a sign. -/
def isExponent (s : List Char) : Bool :=
  match s with
  | [] => true
  | e :: sign :: rest =>
    (e = 'e' || e = 'E') && (sign = '+' || sign = '-') && !rest.isEmpty && rest.all Char.isDigit
  | _ => false

/-- Whether a text is a number with a decimal point: with digits before it, in groups of sixty, or
without a sign and with digits behind it; or an infinity, or not a number. -/
def isFloat (s : List Char) : Bool :=
  [".nan", ".NaN", ".NAN"].contains (String.ofList s) ||
  [".inf", ".Inf", ".INF"].contains (String.ofList (unsigned s)) ||
  (match s with
    | '.' :: x :: rest => x.isDigit && isExponent (rest.dropWhile isDigitMark)
    | _ => false) ||
  (match unsigned s with
    | x :: rest =>
      x.isDigit &&
        match rest.dropWhile isDigitMark with
        | '.' :: behind => isExponent (behind.dropWhile isDigitMark)
        | left =>
          match afterSixties? left with
          | some ('.' :: behind) => behind.all isDigitMark
          | _ => false
    | [] => false)

/-- The tag of a plain scalar. -/
def ofPlain (s : List Char) : Tag :=
  let word := String.ofList s
  if truths.contains word || falsehoods.contains word then flag
  else if isFloat s then float
  else if isInteger s then integer
  else if word = "<<" then merge
  else if nulls.contains word then null
  else if Timestamp.isWritten s then timestamp
  else if word = "=" then value
  else if ["!", "&", "*"].contains word then unknown
  else text

end Tag

end Rulebook.Yaml
