/-!
# UTF-8

`decode` reads bytes as UTF-8. It is a machine that takes one byte at a time and is either between
two characters or inside one; where it has to stop, the fault names the bytes that make up the
broken character so far. Overlong forms, surrogates and code points beyond the last one are
refused at the first byte that gives them away.
-/

namespace Rulebook.Text.Utf8

/-- Why bytes are not UTF-8. -/
inductive Cause where
  /-- The byte cannot start a character. -/
  | invalidStart
  /-- The byte that follows cannot continue the character. -/
  | invalidContinuation
  /-- The bytes end inside a character. -/
  | unexpectedEnd
  deriving DecidableEq, Repr

/-- Where and why decoding stopped. -/
structure Fault where
  /-- The position of the first byte of the broken character. -/
  position : Nat
  /-- The bytes of the broken character that were accepted, or the byte that cannot start one. -/
  bytes : List UInt8
  cause : Cause
  deriving DecidableEq, Repr

/-- A character of which some bytes are still missing. -/
structure Partial where
  /-- The position of its first byte. -/
  position : Nat
  /-- The bytes seen so far. -/
  bytes : List UInt8
  /-- How many bytes are missing, less one. -/
  missing : Nat
  /-- The least value of the next byte. -/
  low : UInt8
  /-- The greatest value of the next byte. -/
  high : UInt8
  /-- The code point so far. -/
  code : Nat
  deriving DecidableEq, Repr

/-- What the first byte of a character says. -/
inductive Lead where
  /-- The byte is a character. -/
  | whole
  /-- The byte cannot start a character. -/
  | invalid
  /-- More bytes follow: their number less one, the bounds of the next one, and the bits of the
  code point that this one holds. -/
  | more (missing : Nat) (low high : UInt8) (code : Nat)
  deriving DecidableEq, Repr

/-- Reads the first byte of a character. The bounds of the second byte rule out overlong forms,
surrogates and code points that are too large. -/
def lead (b : UInt8) : Lead :=
  if b < 0x80 then .whole
  else if b < 0xC2 then .invalid
  else if b < 0xE0 then .more 0 0x80 0xBF (b.toNat - 0xC0)
  else if b < 0xF0 then
    .more 1 (if b = 0xE0 then 0xA0 else 0x80) (if b = 0xED then 0x9F else 0xBF) (b.toNat - 0xE0)
  else if b < 0xF5 then
    .more 2 (if b = 0xF0 then 0x90 else 0x80) (if b = 0xF4 then 0x8F else 0xBF) (b.toNat - 0xF0)
  else .invalid

/-- Decodes the bytes from `position` on, where `state` is the character that is not complete. -/
def decodeFrom (position : Nat) (state : Option Partial) : List UInt8 → Except Fault (List Char)
  | [] =>
    match state with
    | none => .ok []
    | some p => .error ⟨p.position, p.bytes, .unexpectedEnd⟩
  | b :: rest =>
    match state with
    | none =>
      match lead b with
      | .whole => (decodeFrom (position + 1) none rest).map (Char.ofNat b.toNat :: ·)
      | .invalid => .error ⟨position, [b], .invalidStart⟩
      | .more missing low high code =>
        decodeFrom (position + 1) (some ⟨position, [b], missing, low, high, code⟩) rest
    | some p =>
      if p.low ≤ b && b ≤ p.high then
        let code := p.code * 64 + (b.toNat - 0x80)
        match p.missing with
        | 0 => (decodeFrom (position + 1) none rest).map (Char.ofNat code :: ·)
        | missing + 1 =>
          decodeFrom (position + 1)
            (some ⟨p.position, p.bytes ++ [b], missing, 0x80, 0xBF, code⟩) rest
      else .error ⟨p.position, p.bytes, .invalidContinuation⟩

/-- Decodes bytes as UTF-8. -/
def decode (bytes : List UInt8) : Except Fault (List Char) :=
  decodeFrom 0 none bytes

/-- The bytes of a text. -/
def encode (s : List Char) : List UInt8 :=
  s.flatMap String.utf8EncodeChar

example : decode [0x61, 0xC3, 0xA9] = .ok ['a', 'é'] := rfl

example : decode [0xED, 0xA0, 0x80] = .error ⟨0, [0xED], .invalidContinuation⟩ := rfl

/-! ### Describing a fault -/

/-- The reason for a fault in words. -/
def Cause.describe : Cause → String
  | .invalidStart => "invalid start byte"
  | .invalidContinuation => "invalid continuation byte"
  | .unexpectedEnd => "unexpected end of data"

/-- A byte as two hexadecimal digits. -/
def hexByte (b : UInt8) : String :=
  String.ofList [Nat.digitChar (b.toNat / 16), Nat.digitChar (b.toNat % 16)]

/-- A fault in words: a single byte is shown, several are named by their positions. -/
def Fault.message (f : Fault) : String :=
  let place :=
    match f.bytes with
    | [b] => "byte 0x" ++ hexByte b ++ " in position " ++ toString f.position
    | bytes =>
      "bytes in position " ++ toString f.position ++ "-" ++
        toString (f.position + bytes.length - 1)
  "'utf-8' codec can't decode " ++ place ++ ": " ++ f.cause.describe

end Rulebook.Text.Utf8
