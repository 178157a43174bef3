import Rulebook.Decimal.Shortest
import Rulebook.Text.Quoted
import Rulebook.Yaml.Tag

/-!
# YAML scalars as values

A `Scalar` is what a scalar node with a tag stands for. `Scalar.ofText` reads it. Bytes that are not
in their written form are malformed; a word that stands for no truth value, a number that cannot be
read and a timestamp that is not written as one, or that no calendar has, are faults of their own.
`same` says when two scalars are the same key of a mapping, `render` shows a scalar so that its kind
can be seen, and `plainText` shows it bare.
-/

namespace Rulebook.Yaml

/-- A value without parts. -/
inductive Scalar where
  | null
  | flag (value : Bool)
  | integer (value : Int)
  | float (value : Binary64)
  | text (value : String)
  | bytes (value : List UInt8)
  | timestamp (value : Timestamp)
  deriving DecidableEq, Repr, Inhabited

/-- Why YAML text stands for no value. -/
inductive Failure where
  /-- The text is not well-formed YAML, or a tag does not fit its node. -/
  | malformed
  /-- A word stands neither for truth nor for falsehood. -/
  | flag (word : String)
  /-- There is nothing where a number should be, a sign apart. -/
  | noDigits
  /-- A number cannot be read in a base. -/
  | integer (text : String) (base : Nat)
  /-- A decimal number has more digits than are read. -/
  | tooManyDigits (count : Nat)
  /-- A number with a decimal point cannot be read. -/
  | float (text : String)
  /-- A text is not in the written form of a timestamp. -/
  | timestampForm (text : String)
  /-- A timestamp does not exist. -/
  | timestamp (fault : Timestamp.Fault)
  /-- A reader gives up for a reason of its own. -/
  | gaveUp (reason : String)
  deriving DecidableEq, Repr

namespace Scalar

/-! ### Numbers -/

/-- The value of a digit in bases up to sixteen. -/
def digit? (base : Nat) (x : Char) : Option Nat :=
  let value :=
    if '0' ≤ x ∧ x ≤ '9' then some (x.toNat - '0'.toNat)
    else if 'a' ≤ x ∧ x ≤ 'f' then some (x.toNat - 'a'.toNat + 10)
    else if 'A' ≤ x ∧ x ≤ 'F' then some (x.toNat - 'A'.toNat + 10)
    else none
  value.filter fun v => v < base

/-- The number that digits write. -/
def natural (base : Nat) (s : List Char) : Except Failure Nat :=
  let read := s.foldlM (fun n x => (digit? base x).map fun d => n * base + d) 0
  match s, read with
  | _ :: _, some n => .ok n
  | _, _ => .error (.integer (String.ofList s) base)

/-- The number of digits that a decimal number may have. -/
def maxDigits : Nat := 4300

/-- The number that decimal digits write, if there are not too many of them. -/
def decimalNatural (s : List Char) : Except Failure Nat :=
  let count := (s.takeWhile Char.isDigit).length
  if maxDigits < count then .error (.tooManyDigits count) else natural 10 s

/-- The pieces of a text between colons. -/
def splitColons : List Char → List (List Char)
  | [] => [[]]
  | x :: s =>
    if x = ':' then [] :: splitColons s
    else
      match splitColons s with
      | [] => [[x]]
      | t :: ts => (x :: t) :: ts

/-- Whether a number is written with a minus sign. -/
def isNegative (s : List Char) : Bool :=
  s.head? = some '-'

/-- Reads an integer; underscores in it mean nothing. -/
def readInteger (text : List Char) : Except Failure Scalar := do
  let s := text.filter (· ≠ '_')
  let size ←
    match Tag.unsigned s with
    | ['0'] => pure 0
    | '0' :: 'b' :: rest => natural 2 rest
    | '0' :: 'x' :: rest => natural 16 rest
    | '0' :: rest => natural 8 ('0' :: rest)
    | [] => .error .noDigits
    | digits =>
      if digits.contains ':' then do
        let parts ← (splitColons digits).mapM decimalNatural
        pure (parts.foldl (fun n part => n * 60 + part) 0)
      else decimalNatural digits
  return .integer (if isNegative s then -(size : Int) else size)

/-- Reads a number with a decimal point or an exponent, without a sign. -/
def decimal? (s : List Char) : Option Binary64 := do
  let whole := s.takeWhile Char.isDigit
  let left := s.dropWhile Char.isDigit
  let (part, left) :=
    match left with
    | '.' :: rest => (rest.takeWhile Char.isDigit, rest.dropWhile Char.isDigit)
    | _ => ([], left)
  guard !(whole ++ part).isEmpty
  let exponent ←
    match left with
    | [] => some 0
    | 'e' :: '-' :: digits => (natural 10 digits).toOption.map fun n => -(n : Int)
    | 'e' :: '+' :: digits => (natural 10 digits).toOption.map Int.ofNat
    | 'e' :: digits => (natural 10 digits).toOption.map Int.ofNat
    | _ => none
  return Binary64.ofDecimal false (Timestamp.number (whole ++ part)) (exponent - part.length)

/-- Reads a number with a decimal point or an exponent, without a sign. -/
def decimal (s : List Char) : Except Failure Binary64 :=
  match decimal? s with
  | some x => .ok x
  | none => .error (.float (String.ofList s))

/-- Adds numbers in groups of sixty, the last one first, where `base` is the weight of the next. -/
def addSixties (base : Nat) (sum : Binary64) : List Binary64 → Binary64
  | [] => sum
  | x :: rest =>
    addSixties (base * 60) (sum.addAbs (x.mulAbs (Binary64.ofRatio false base 1))) rest

/-- Reads a floating-point number; underscores in it mean nothing. -/
def readFloat (text : List Char) : Except Failure Scalar := do
  let s := (text.filter (· ≠ '_')).map Char.toLower
  if s.isEmpty then throw .noDigits
  let size ←
    match Tag.unsigned s with
    | ['.', 'i', 'n', 'f'] => pure (.infinity false)
    | ['.', 'n', 'a', 'n'] => pure .nan
    | digits =>
      if digits.contains ':' then do
        let parts ← (splitColons digits).mapM decimal
        pure (addSixties 1 Binary64.zero parts.reverse)
      else decimal digits
  return .float (if isNegative s then size.neg else size)

/-! ### Bytes -/

/-- The value of a character in base 64. -/
def sixBits? (x : Char) : Option Nat :=
  if 'A' ≤ x ∧ x ≤ 'Z' then some (x.toNat - 'A'.toNat)
  else if 'a' ≤ x ∧ x ≤ 'z' then some (x.toNat - 'a'.toNat + 26)
  else if '0' ≤ x ∧ x ≤ '9' then some (x.toNat - '0'.toNat + 52)
  else if x = '+' then some 62
  else if x = '/' then some 63
  else none

/-- Decodes base 64. `held` are the values of the group that is not complete, and `pads` counts the
padding in it; characters that are neither are passed over, and a padded group is the last. -/
def decodeBase64 (held : List Nat) (pads : Nat) : List Char → Option (List UInt8)
  | [] => if held.isEmpty then some [] else none
  | x :: rest =>
    if x = '=' then
      if held.length ≥ 2 && held.length + pads + 1 ≥ 4 then
        match held with
        | [a, b] => some [UInt8.ofNat (a * 4 + b / 16)]
        | [a, b, c] => some [UInt8.ofNat (a * 4 + b / 16), UInt8.ofNat (b % 16 * 16 + c / 4)]
        | _ => none
      else decodeBase64 held (if held.length ≥ 2 then pads + 1 else pads) rest
    else
      match sixBits? x, held with
      | none, _ => decodeBase64 held pads rest
      | some d, [a, b, c] =>
        (decodeBase64 [] 0 rest).map fun decoded =>
          UInt8.ofNat (a * 4 + b / 16) :: UInt8.ofNat (b % 16 * 16 + c / 4) ::
            UInt8.ofNat (c % 4 * 64 + d) :: decoded
      | some d, _ => decodeBase64 (held ++ [d]) 0 rest

/-- Reads bytes that are written in base 64. -/
def readBytes (text : List Char) : Except Failure Scalar :=
  if text.all fun x => x.toNat < 128 then
    match decodeBase64 [] 0 text with
    | some decoded => .ok (.bytes decoded)
    | none => .error .malformed
  else .error .malformed

/-! ### Reading a scalar -/

/-- Reads a word for truth or falsehood, in any case. -/
def readFlag (text : List Char) : Except Failure Scalar :=
  let word := String.ofList (text.map Char.toLower)
  if Tag.truths.contains word then .ok (.flag true)
  else if Tag.falsehoods.contains word then .ok (.flag false)
  else .error (.flag word)

/-- Reads a timestamp. -/
def readTimestamp (text : List Char) : Except Failure Scalar :=
  match Timestamp.fields? text with
  | none => .error (.timestampForm (String.ofList text))
  | some fields =>
    match Timestamp.ofFields fields with
    | .ok t => .ok (.timestamp t)
    | .error fault => .error (.timestamp fault)

/-- The value of a scalar with a tag. -/
def ofText (tag : Tag) (text : String) : Except Failure Scalar :=
  match tag with
  | .null => .ok .null
  | .flag => readFlag text.toList
  | .integer => readInteger text.toList
  | .float => readFloat text.toList
  | .timestamp => readTimestamp text.toList
  | .text => .ok (.text text)
  | .bytes => readBytes text.toList
  | _ => .error .malformed

/-! ### Keys -/

/-- A number that can be compared with others: truth counts as one, falsehood as zero. -/
inductive Size where
  | infinite (negative : Bool)
  | ratio (n : Int) (d : Nat)

/-- The size of a scalar that is a number. -/
def size? : Scalar → Option Size
  | flag value => some (.ratio (if value then 1 else 0) 1)
  | integer value => some (.ratio value 1)
  | float (.infinity negative) => some (.infinite negative)
  | float (.finite negative significand exponent) =>
    let (n, d) := Binary64.timesPower significand 1 exponent
    some (.ratio (if negative then -(n : Int) else n) d)
  | _ => none

/-- Whether two scalars are the same key: numbers are compared by size, whatever their kind. -/
def same (a b : Scalar) : Bool :=
  match a.size?, b.size? with
  | some (.ratio m c), some (.ratio n d) => m * d = n * c
  | some (.infinite p), some (.infinite q) => p = q
  | some _, _ => false
  | _, some _ => false
  | none, none =>
    match a, b with
    | timestamp s, timestamp t => s.same t
    | a, b => a = b

/-! ### Printing -/

/-- A byte in quotes. -/
def quoteByte (delimiter : Char) (b : UInt8) : List Char :=
  let c := Char.ofNat b.toNat
  if c = delimiter || c = '\\' then ['\\', c]
  else if b = 9 then ['\\', 't']
  else if b = 10 then ['\\', 'n']
  else if b = 13 then ['\\', 'r']
  else if 32 ≤ b && b < 127 then [c]
  else '\\' :: 'x' :: Text.hexDigits 2 b.toNat

/-- Bytes in quotes. -/
def quoteBytes (bytes : List UInt8) : String :=
  let delimiter := Text.delimiterFor (bytes.map fun b => Char.ofNat b.toNat)
  String.ofList ('b' :: delimiter :: bytes.flatMap (quoteByte delimiter) ++ [delimiter])

/-- A scalar, shown so that its kind can be seen. -/
def render : Scalar → String
  | null => "None"
  | flag value => if value then "True" else "False"
  | integer value => toString value
  | float value => value.render
  | text value => Text.quote value
  | bytes value => quoteBytes value
  | timestamp value => value.render

/-- A scalar, shown bare. -/
def plainText : Scalar → String
  | text value => value
  | timestamp value => value.text
  | other => other.render

end Scalar

/-- A failure in words. -/
def Failure.message : Failure → String
  | .malformed => "invalid YAML"
  | .flag word => Text.quote word
  | .noDigits => "no digits in a number"
  | .integer text base =>
    "invalid literal for int() with base " ++ toString base ++ ": " ++ Text.quote text
  | .tooManyDigits count =>
    "Exceeds the limit (" ++ toString Scalar.maxDigits ++ " digits) for integer string " ++
      "conversion: value has " ++ toString count ++
      " digits; use sys.set_int_max_str_digits() to increase the limit"
  | .float text => "could not convert string to float: " ++ Text.quote text
  | .timestampForm text => "not a timestamp: " ++ Text.quote text
  | .timestamp fault => fault.message
  | .gaveUp reason => reason

end Rulebook.Yaml
