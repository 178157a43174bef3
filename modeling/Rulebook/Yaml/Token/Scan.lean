import Rulebook.Text.Utf8
import Rulebook.Yaml.Cursor
import Rulebook.Yaml.Token
import Rulebook.Yaml.Token.Scalar

/-!
# Cutting YAML text into tokens

`Token.scan` reads a text from start to end. Two things make it more than a loop over characters:
indentation, kept as a stack of columns, turns into tokens that open and close block collections;
and a simple key is recognised only by the colon behind it, so the places where one may have begun
are remembered, one for each level of flow collections, and the tokens for the key are put in there
afterwards. A simple key ends on its own line, within 1024 characters.

The whole text is cut before it is read on, so of two things that are wrong with a text the one that
concerns its tokens is found first.
-/

namespace Rulebook.Yaml

/-- A place where a simple key may have begun. -/
structure KeyPlace where
  /-- The number of tokens before. -/
  position : Nat
  /-- Whether nothing but a key can stand there. -/
  required : Bool
  index : Nat
  line : Nat
  column : Nat
  deriving DecidableEq, Repr, Inhabited

/-- The state of cutting a text into tokens. -/
structure Scanner where
  cursor : Cursor
  /-- The number of flow collections around this place. -/
  flow : Nat := 0
  /-- The column of the innermost block collection, or -1 outside of any. -/
  indent : Int := -1
  /-- The columns of the block collections around it. -/
  outer : List Int := []
  /-- Whether a simple key may begin here. -/
  keyAllowed : Bool := true
  /-- Where simple keys may have begun, by level of flow collections. -/
  places : List (Nat × KeyPlace) := []
  /-- The tokens so far, the last one first. -/
  tokens : List Token := []
  deriving Repr, Inhabited

namespace Scanner

/-! ### Tokens, places and indentation -/

/-- Adds a token. -/
def push (s : Scanner) (token : Token) : Scanner :=
  { s with tokens := token :: s.tokens }

/-- Adds a token in front of all but the first `position` tokens. -/
def insertAt (s : Scanner) (position : Nat) (token : Token) : Scanner :=
  let behind := s.tokens.length - position
  { s with tokens := s.tokens.take behind ++ token :: s.tokens.drop behind }

/-- Whether this place is inside a flow collection. -/
def inFlow (s : Scanner) : Bool :=
  s.flow ≠ 0

/-- Forgets the places whose key would not end on its line or would be too long. A required key
cannot be forgotten. -/
def dropStale (s : Scanner) : Option Scanner :=
  let isStale := fun (entry : Nat × KeyPlace) =>
    entry.2.line ≠ s.cursor.line || s.cursor.index - entry.2.index > 1024
  if s.places.any fun entry => isStale entry && entry.2.required then none
  else some { s with places := s.places.filter fun entry => !isStale entry }

/-- Forgets the place of this level. A required key cannot be forgotten. -/
def dropPlace (s : Scanner) : Option Scanner :=
  match s.places.lookup s.flow with
  | some place =>
    if place.required then none
    else some { s with places := s.places.filter fun entry => entry.1 ≠ s.flow }
  | none => some s

/-- Remembers that a simple key may begin here, if one may. -/
def savePlace (s : Scanner) : Option Scanner :=
  if s.keyAllowed then do
    let s' ← s.dropPlace
    let c := s.cursor
    let place : KeyPlace :=
      { position := s.tokens.length, required := !s.inFlow && s.indent = (c.column : Int)
        index := c.index, line := c.line, column := c.column }
    return { s' with places := (s.flow, place) :: s'.places }
  else some s

/-- Closes the block collections whose column lies right of `column`. -/
def unwindTo (column : Int) : Nat → Scanner → Scanner
  | 0, s => s
  | bound + 1, s =>
    if s.indent > column then
      match s.outer with
      | [] => s
      | indent :: outer => unwindTo column bound ({ s with indent, outer }.push .blockEnd)
    else s

/-- Closes the block collections whose column lies right of `column`; inside a flow collection
columns mean nothing. -/
def unwind (s : Scanner) (column : Int) : Scanner :=
  if s.inFlow then s else s.unwindTo column s.outer.length

/-- Opens a block collection at a column, if it lies right of the one that is open. -/
def addIndent? (s : Scanner) (column : Nat) : Option Scanner :=
  if s.indent < (column : Int) then
    some { s with indent := column, outer := s.indent :: s.outer }
  else none

/-- Opens a block collection at this column if it lies right of the one that is open. Outside of
flow collections this is allowed only where a simple key may begin. -/
def openBlock (s : Scanner) (token : Token) : Option Scanner :=
  if s.inFlow then some s
  else if s.keyAllowed then
    match s.addIndent? s.cursor.column with
    | some s' => some (s'.push token)
    | none => some s
  else none

/-- Puts the cursor somewhere else. -/
def moveTo (s : Scanner) (c : Cursor) : Scanner :=
  { s with cursor := c }

/-! ### Between tokens -/

/-- Moves over spaces, comments and line endings. Behind a line ending a simple key may begin,
except inside a flow collection. -/
def skipToToken : Nat → Scanner → Scanner
  | 0, s => s
  | bound + 1, s =>
    let c := s.cursor.skipSpaces.skipComment
    match c.lineBreak? with
    | some (_, c') =>
      skipToToken bound { s with cursor := c', keyAllowed := s.keyAllowed || !s.inFlow }
    | none => s.moveTo c

/-- Moves over a byte order mark at the start of the text. -/
def skipMark (s : Scanner) : Scanner :=
  if s.cursor.index = 0 && s.cursor.peek = some '\uFEFF' then s.moveTo s.cursor.advance else s

/-! ### Names and tags -/

/-- The characters of anchors, tag handles and directive names. -/
def isNameChar (x : Char) : Bool :=
  x.isAlphanum || x = '-' || x = '_'

/-- The characters of tags other than letters and digits. -/
def uriMarks : List Char :=
  "-;/?:@&=+$,_.!~*'()[]%".toList

/-- The characters of tags. -/
def isUriChar (x : Char) : Bool :=
  x.isAlphanum || uriMarks.contains x

/-- Reads bytes that are written as a percent sign and two hexadecimal digits each. -/
def uriBytes : List Char → Option (List UInt8)
  | [] => some []
  | '%' :: a :: b :: rest => do
    let n ← Cursor.hexNumber? [a, b]
    return UInt8.ofNat n :: (← uriBytes rest)
  | _ => none

/-- Decodes the written bytes in a tag, where `pending` are the ones in front, in reverse. -/
def decodeUri (pending : List Char) : List Char → Option (List Char)
  | [] => (uriBytes pending.reverse).bind fun bytes => (Text.Utf8.decode bytes).toOption
  | x :: rest =>
    if x = '%' || pending.length % 3 ≠ 0 then decodeUri (x :: pending) rest
    else do
      let bytes ← uriBytes pending.reverse
      let front ← (Text.Utf8.decode bytes).toOption
      return front ++ x :: (← decodeUri [] rest)

/-- Reads a tag, or the rest of one behind its handle. -/
def uri? (c : Cursor) : Option (String × Cursor) := do
  let (run, c') := c.takeWhile isUriChar
  guard !run.isEmpty
  return (String.ofList (← decodeUri [] run), c')

/-- Reads a tag handle: an exclamation mark, or a name between two of them. -/
def handle? (c : Cursor) : Option (String × Cursor) := do
  let c₁ ← c.skip? '!'
  if c₁.peek = some ' ' then some ("!", c₁)
  else
    let (name, c₂) := c₁.takeWhile isNameChar
    (c₂.skip? '!').map fun c₃ => (String.ofList ('!' :: name ++ ['!']), c₃)

/-- Whether another exclamation mark stands in front of the next gap. -/
def hasHandle (c : Cursor) : Bool :=
  (c.rest.takeWhile fun x => !Cursor.isGap (some x)).contains '!'

/-- Reads a tag that is written in full between angle brackets. -/
def fullTag? (c : Cursor) : Option (WrittenTag × Cursor) := do
  let (rest, c') ← uri? c
  return (⟨none, rest⟩, ← c'.skip? '>')

/-- Reads a tag that starts with a handle, be it the short one. -/
def shortTag? (c : Cursor) : Option (WrittenTag × Cursor) := do
  let (handle, c₁) ← if hasHandle c.advance then handle? c else some ("!", c.advance)
  let (rest, c₂) ← uri? c₁
  return (⟨some handle, rest⟩, c₂)

/-- Reads a tag, behind which a gap has to follow. -/
def tag? (c : Cursor) : Option (WrittenTag × Cursor) := do
  let (written, c') ←
    if c.peekAt 1 = some '<' then fullTag? (c.advanceBy 2)
    else if Cursor.isWideGap (c.peekAt 1) then some (⟨none, "!"⟩, c.advance)
    else shortTag? c
  guard (Cursor.isGap c'.peek)
  return (written, c')

/-- The characters that may follow an anchor or an alias. -/
def endsName (x : Option Char) : Bool :=
  Cursor.isWideGap x || x.any fun x => "?:,]\x7d%@`".toList.contains x

/-- Reads the name of an anchor or an alias. -/
def name? (c : Cursor) : Option (String × Cursor) := do
  let (name, c') := c.advance.takeWhile isNameChar
  guard (!name.isEmpty && endsName c'.peek)
  return (String.ofList name, c')

/-! ### Directives -/

/-- Reads a number. -/
def number? (c : Cursor) : Option (Nat × Cursor) := do
  let (digits, c') := c.takeWhile Char.isDigit
  guard !digits.isEmpty
  return (digits.foldl (fun n x => n * 10 + (x.toNat - '0'.toNat)) 0, c')

/-- Reads the version that a directive names. -/
def version? (c : Cursor) : Option (Directive × Cursor) := do
  let (major, c₁) ← number? c.skipSpaces
  let (_, c₂) ← number? (← c₁.skip? '.')
  guard (Cursor.isGap c₂.peek)
  return (.version major, c₂)

/-- Reads the tag handle that a directive explains, and what it stands for. -/
def handleMeaning? (c : Cursor) : Option (Directive × Cursor) := do
  let (name, c₁) ← handle? c.skipSpaces
  guard (c₁.peek = some ' ')
  let (meaning, c₂) ← uri? c₁.skipSpaces
  guard (Cursor.isGap c₂.peek)
  return (.handle name meaning, c₂)

/-- Reads a directive line. -/
def directive? (c : Cursor) : Option (Directive × Cursor) := do
  let (name, c₁) := c.advance.takeWhile isNameChar
  guard (!name.isEmpty && Cursor.isGap c₁.peek)
  let (d, c₂) ←
    if name = "YAML".toList then version? c₁
    else if name = "TAG".toList then handleMeaning? c₁
    else some (.other, c₁.skipWhile fun x => !isBreak x)
  let c₃ := c₂.skipSpaces.skipComment
  guard (Cursor.endsLine c₃.peek)
  return (d, (c₃.lineBreak?.map Prod.snd).getD c₃)

/-! ### Reading a token -/

/-- Ends all block collections, and forbids a simple key. -/
def closeAll (s : Scanner) : Option Scanner := do
  let s' ← (s.unwind (-1)).dropPlace
  return { s' with keyAllowed := false }

/-- Reads a marker that starts or ends a document. -/
def readMarker (s : Scanner) (token : Token) : Option Scanner := do
  let s' ← s.closeAll
  return (s'.moveTo (s.cursor.advanceBy 3)).push token

/-- Reads a directive. -/
def readDirective (s : Scanner) : Option Scanner := do
  let s' ← s.closeAll
  let (d, c) ← directive? s.cursor
  return (s'.moveTo c).push (.directive d)

/-- Reads the start of a flow collection, which may be a simple key. -/
def readFlowStart (s : Scanner) (token : Token) : Option Scanner := do
  let s' ← s.savePlace
  return ({ s' with flow := s.flow + 1, keyAllowed := true }.moveTo s.cursor.advance).push token

/-- Reads the end of a flow collection. -/
def readFlowEnd (s : Scanner) (token : Token) : Option Scanner := do
  guard s.inFlow
  let s' ← s.dropPlace
  return ({ s' with flow := s.flow - 1, keyAllowed := false }.moveTo s.cursor.advance).push token

/-- Reads the comma between the members of a flow collection. -/
def readFlowEntry (s : Scanner) : Option Scanner := do
  let s' ← s.dropPlace
  return ({ s' with keyAllowed := true }.moveTo s.cursor.advance).push .flowEntry

/-- Reads the dash in front of a member of a block sequence. -/
def readBlockEntry (s : Scanner) : Option Scanner := do
  let s' ← (← s.openBlock .blockSequenceStart).dropPlace
  return ({ s' with keyAllowed := true }.moveTo s.cursor.advance).push .blockEntry

/-- Reads the question mark in front of a key. -/
def readKey (s : Scanner) : Option Scanner := do
  let s' ← (← s.openBlock .blockMappingStart).dropPlace
  return ({ s' with keyAllowed := !s.inFlow }.moveTo s.cursor.advance).push .key

/-- Reads the colon behind a key. If a simple key may have begun at this level, it has, and the
tokens for it go in front of it. -/
def readValue (s : Scanner) : Option Scanner :=
  match s.places.lookup s.flow with
  | some place =>
    let s₁ := { s with places := s.places.filter fun entry => entry.1 ≠ s.flow }
    let s₂ := s₁.insertAt place.position .key
    let s₃ :=
      if s.inFlow then s₂
      else
        match s₂.addIndent? place.column with
        | some s' => s'.insertAt place.position .blockMappingStart
        | none => s₂
    some (({ s₃ with keyAllowed := false }.moveTo s.cursor.advance).push .value)
  | none => do
    let s' ← (← s.openBlock .blockMappingStart).dropPlace
    return ({ s' with keyAllowed := !s.inFlow }.moveTo s.cursor.advance).push .value

/-- Reads a token that may begin a simple key and behind which none may. -/
def readSimple (s : Scanner) (read : Cursor → Option (Token × Cursor)) : Option Scanner := do
  let s' ← s.savePlace
  let (token, c) ← read s.cursor
  return ({ s' with keyAllowed := false }.moveTo c).push token

/-- Reads an alias. -/
def readAlias (c : Cursor) : Option (Token × Cursor) :=
  (name? c).map fun (name, c') => (.alias name, c')

/-- Reads an anchor. -/
def readAnchor (c : Cursor) : Option (Token × Cursor) :=
  (name? c).map fun (name, c') => (.anchor name, c')

/-- Reads a tag. -/
def readTag (c : Cursor) : Option (Token × Cursor) :=
  (tag? c).map fun (written, c') => (.tag written, c')

/-- Reads a scalar in quotes. -/
def readQuoted (c : Cursor) : Option (Token × Cursor) :=
  c.quotedScalar.map fun (text, c') => (.scalar (String.ofList text) false, c')

/-- Reads a block scalar, behind which a simple key may begin. -/
def readBlock (s : Scanner) (folded : Bool) : Option Scanner := do
  let s' ← s.dropPlace
  let (text, c) ← s.cursor.blockScalar folded s.indent
  return ({ s' with keyAllowed := true }.moveTo c).push (.scalar (String.ofList text) false)

/-- Reads a plain scalar. A simple key may begin behind it if it took a line ending with it. -/
def readPlain (s : Scanner) : Option Scanner := do
  let s' ← s.savePlace
  let r := s.cursor.plainScalar s.inFlow (s.indent + 1)
  return ({ s' with keyAllowed := r.crossed }.moveTo r.cursor).push
    (.scalar (String.ofList r.text) true)

/-- The characters that no plain scalar starts with, save some of them before other text. -/
def reservedStarts : List Char :=
  "-?:,[]\x7b\x7d#&*!|>'\"%@`".toList

/-- Whether a plain scalar may start here: with no reserved character, or with a dash or, outside of
flow collections, a question mark or a colon that is not before a gap. -/
def startsPlain (s : Scanner) (x : Char) : Bool :=
  !reservedStarts.contains x && !Cursor.isWideGap (some x) ||
    !Cursor.isWideGap (s.cursor.peekAt 1) && (x = '-' || (!s.inFlow && (x = '?' || x = ':')))

/-- Reads the next token, which starts with `x`. -/
def read (s : Scanner) (x : Char) : Option Scanner :=
  let gapNext := Cursor.isWideGap (s.cursor.peekAt 1)
  let lineStart := s.cursor.column = 0
  if x = '%' && lineStart then s.readDirective
  else if lineStart && s.cursor.atMarker '-' then s.readMarker .documentStart
  else if lineStart && s.cursor.atMarker '.' then s.readMarker .documentEnd
  else if x = '[' then s.readFlowStart .flowSequenceStart
  else if x = '\x7b' then s.readFlowStart .flowMappingStart
  else if x = ']' then s.readFlowEnd .flowSequenceEnd
  else if x = '\x7d' then s.readFlowEnd .flowMappingEnd
  else if x = ',' then s.readFlowEntry
  else if x = '-' && gapNext then s.readBlockEntry
  else if x = '?' && (s.inFlow || gapNext) then s.readKey
  else if x = ':' && (s.inFlow || gapNext) then s.readValue
  else if x = '*' then s.readSimple readAlias
  else if x = '&' then s.readSimple readAnchor
  else if x = '!' then s.readSimple readTag
  else if x = '|' && !s.inFlow then s.readBlock false
  else if x = '>' && !s.inFlow then s.readBlock true
  else if x = '\'' || x = '"' then s.readSimple readQuoted
  else if s.startsPlain x then s.readPlain
  else none

/-- Reads the tokens from here to the end of the text. -/
def readAll : Nat → Scanner → Option (List Token)
  | 0, _ => none
  | bound + 1, s => do
    let s₁ ← (s.skipToToken (s.cursor.rest.length + 1)).dropStale
    let s₂ := s₁.unwind s₁.cursor.column
    match s₂.cursor.peek with
    | none => return (← s₂.closeAll).tokens.reverse
    | some x => readAll bound (← s₂.read x)

end Scanner

/-- The characters that may stand in YAML text with line feeds as its line endings. -/
def isAllowed (x : Char) : Bool :=
  let n := x.toNat
  n = 9 || n = 10 || (0x20 ≤ n && n ≤ 0x7E) || n = 0x85 || (0xA0 ≤ n && n ≠ 0xFFFE && n ≠ 0xFFFF)

/-- Cuts a text into tokens, unless it is malformed. -/
def Token.scan (text : List Char) : Option (List Token) :=
  if text.all isAllowed then
    (Scanner.skipMark { cursor := { rest := text } }).readAll (text.length + 2)
  else none

end Rulebook.Yaml
