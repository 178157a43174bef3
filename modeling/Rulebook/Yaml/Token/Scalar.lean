import Rulebook.Yaml.Cursor

/-!
# Reading YAML scalars

A scalar is written plain, in single or double quotes, or as a block that keeps or folds its lines.
Each reader takes the cursor at the start of a scalar and gives its text and the cursor behind it,
or nothing if the scalar is malformed. A line ending inside a scalar counts as one space unless
empty lines follow it, which then stand for themselves.
-/

namespace Rulebook.Yaml

namespace Cursor

/-! ### Plain scalars -/

/-- The characters that separate the parts of a flow collection. -/
def isFlowMark (x : Char) : Bool :=
  x = ',' || x = '[' || x = ']' || x = '\x7b' || x = '\x7d'

/-- The number of characters up to the next gap or the next mark that ends a plain scalar: a colon
before a gap, and inside a flow collection the marks of the collection. -/
def plainRun (inFlow : Bool) : List Char → Nat
  | [] => 0
  | x :: rest =>
    let colonEnds := isWideGap rest.head? || (inFlow && rest.head?.any isFlowMark)
    if isWideGap (some x) || (x = ':' && colonEnds) ||
        (inFlow && (isFlowMark x || x = '?')) then 0
    else plainRun inFlow rest + 1

/-- Reads the line endings behind a line of a plain scalar, with the spaces among them. There is no
text if a document marker is met. -/
def plainBreaks : Nat → List Char → Cursor → Option (List Char) × Cursor
  | 0, breaks, c => (some breaks, c)
  | bound + 1, breaks, c =>
    match c.lineBreak? with
    | some (b, c') =>
      if c'.atAnyMarker then (none, c') else plainBreaks bound (breaks ++ [b]) c'
    | none =>
      if c.peek = some ' ' then plainBreaks bound breaks c.skipSpaces else (some breaks, c)

/-- How line endings are shown: `first` is the line ending itself, and `breaks` are the empty lines
behind it. -/
def foldBreaks (first : Char) (breaks : List Char) : List Char :=
  (if first ≠ '\n' then [first] else if breaks.isEmpty then [' '] else []) ++ breaks

/-- Reads the gap behind a run of a plain scalar: its text, which is empty where the scalar cannot
go on, the cursor behind it, and whether the gap holds a line ending. -/
def plainGap (c : Cursor) : List Char × Cursor × Bool :=
  let (spaces, c') := c.takeWhile (· = ' ')
  match c'.lineBreak? with
  | none => (spaces, c', false)
  | some (b, c'') =>
    if c''.atAnyMarker then ([], c'', true)
    else
      match plainBreaks (c''.rest.length + 1) [] c'' with
      | (some breaks, c''') => (foldBreaks b breaks, c''', true)
      | (none, c''') => ([], c''', true)

/-- What has been read of a plain scalar. -/
structure PlainRead where
  text : List Char
  cursor : Cursor
  /-- Whether a line ending was read behind the last run. -/
  crossed : Bool

/-- Reads runs and gaps as long as the scalar goes on. In a block a line has to be indented by
`indent`. -/
def plainRuns (inFlow : Bool) (indent : Int) : Nat → List Char → PlainRead → PlainRead
  | 0, _, r => r
  | bound + 1, gap, r =>
    let c := r.cursor
    let n := if c.peek = some '#' then 0 else plainRun inFlow c.rest
    if n = 0 then r
    else
      let text := r.text ++ gap ++ c.rest.take n
      let (gap', c', crossed) := plainGap (c.advanceBy n)
      let r' := ⟨text, c', crossed⟩
      if gap'.isEmpty || c'.peek = some '#' || (!inFlow && (c'.column : Int) < indent) then r'
      else plainRuns inFlow indent bound gap' r'

/-- Reads a plain scalar. -/
def plainScalar (inFlow : Bool) (indent : Int) (c : Cursor) : PlainRead :=
  plainRuns inFlow indent (c.rest.length + 1) [] ⟨[], c, false⟩

/-! ### Quoted scalars -/

/-- The value of a hexadecimal digit. -/
def hexDigit? (x : Char) : Option Nat :=
  if '0' ≤ x ∧ x ≤ '9' then some (x.toNat - '0'.toNat)
  else if 'a' ≤ x ∧ x ≤ 'f' then some (x.toNat - 'a'.toNat + 10)
  else if 'A' ≤ x ∧ x ≤ 'F' then some (x.toNat - 'A'.toNat + 10)
  else none

/-- The number that hexadecimal digits write. -/
def hexNumber? (digits : List Char) : Option Nat :=
  digits.foldlM (fun n x => (hexDigit? x).map fun d => n * 16 + d) 0

/-- The character with a code point, if there is one. -/
def charOf? (n : Nat) : Option Char :=
  if n.isValidChar then some (Char.ofNat n) else none

/-- The character that a short escape stands for. -/
def shortEscape? (x : Char) : Option Char :=
  match x with
  | '0' => some '\x00'
  | 'a' => some '\x07'
  | 'b' => some '\x08'
  | 't' => some '\t'
  | '\t' => some '\t'
  | 'n' => some '\n'
  | 'v' => some '\x0b'
  | 'f' => some '\x0c'
  | 'r' => some '\r'
  | 'e' => some '\x1b'
  | ' ' => some ' '
  | '"' => some '"'
  | '\\' => some '\\'
  | '/' => some '/'
  | 'N' => some '\u0085'
  | '_' => some '\u00A0'
  | 'L' => some '\u2028'
  | 'P' => some '\u2029'
  | _ => none

/-- The number of hexadecimal digits that an escape takes. -/
def escapeLength? (x : Char) : Option Nat :=
  match x with
  | 'x' => some 2
  | 'u' => some 4
  | 'U' => some 8
  | _ => none

/-- Reads the empty lines behind a line ending in quotes, with the blanks at their start. A document
marker may not stand there. -/
def quotedBreaks : Nat → List Char → Cursor → Option (List Char × Cursor)
  | 0, _, _ => none
  | bound + 1, breaks, c =>
    if c.atAnyMarker then none
    else
      let c' := c.skipWhile fun x => x = ' ' || x = '\t'
      match c'.lineBreak? with
      | some (b, c'') => quotedBreaks bound (breaks ++ [b]) c''
      | none => some (breaks, c')

/-- Reads an escape, from behind the backslash on. An escaped line ending stands for nothing, and
the empty lines behind it for themselves. -/
def escapeSequence (c : Cursor) : Option (List Char × Cursor) :=
  match c.peek with
  | none => none
  | some x =>
    match shortEscape? x, escapeLength? x with
    | some y, _ => some ([y], c.advance)
    | none, some n => do
      let digits := c.advance.rest.take n
      guard (digits.length = n)
      let y ← charOf? (← hexNumber? digits)
      return ([y], c.advanceBy (n + 1))
    | none, none =>
      match c.lineBreak? with
      | some (_, c') => quotedBreaks (c'.rest.length + 1) [] c'
      | none => none

/-- Reads blanks in quotes: as they are inside a line, folded at a line ending. -/
def quotedGap (c : Cursor) : Option (List Char × Cursor) :=
  let (blanks, c') := c.takeWhile fun x => x = ' ' || x = '\t'
  match c'.peek, c'.lineBreak? with
  | none, _ => none
  | some _, none => some (blanks, c')
  | some _, some (b, c'') => do
    let (breaks, c''') ← quotedBreaks (c''.rest.length + 1) [] c''
    return (foldBreaks b breaks, c''')

/-- Reads a quoted scalar from behind its opening quote on, at most `bound` pieces. -/
def quotedPieces (quote : Char) : Nat → List Char → Cursor → Option (List Char × Cursor)
  | 0, _, _ => none
  | bound + 1, text, c =>
    match c.peek with
    | none => none
    | some x =>
      if quote = '\'' && x = '\'' && c.peekAt 1 = some '\'' then
        quotedPieces quote bound (text ++ ['\'']) (c.advanceBy 2)
      else if x = quote then some (text, c.advance)
      else if quote = '"' && x = '\\' then
        match escapeSequence c.advance with
        | some (piece, c') => quotedPieces quote bound (text ++ piece) c'
        | none => none
      else if isWideGap (some x) then
        match quotedGap c with
        | some (piece, c') => quotedPieces quote bound (text ++ piece) c'
        | none => none
      else quotedPieces quote bound (text ++ [x]) c.advance

/-- Reads a quoted scalar. -/
def quotedScalar (c : Cursor) : Option (List Char × Cursor) :=
  match c.peek with
  | some quote => quotedPieces quote (c.rest.length + 1) [] c.advance
  | none => none

/-! ### Block scalars -/

/-- What happens to the line endings at the end of a block scalar. -/
inductive Chomping where
  /-- One is kept. -/
  | clip
  /-- None is kept. -/
  | strip
  /-- All are kept. -/
  | keep
  deriving DecidableEq, Repr

/-- Reads a mark for the line endings. -/
def chomping (c : Cursor) : Chomping × Cursor :=
  match c.peek with
  | some '+' => (.keep, c.advance)
  | some '-' => (.strip, c.advance)
  | _ => (.clip, c)

/-- Reads a digit for the indentation, which cannot be zero. -/
def increment? (c : Cursor) : Option (Option Nat × Cursor) :=
  match c.peek with
  | some x =>
    if x = '0' then none
    else if x.isDigit then some (some (x.toNat - '0'.toNat), c.advance)
    else some (none, c)
  | none => some (none, c)

/-- Reads the marks of a block scalar in either order, and the rest of their line. -/
def blockHeader (c : Cursor) : Option (Chomping × Option Nat × Cursor) := do
  let (first, c₁) := c.chomping
  let (increment, c₂) ← c₁.increment?
  let (last, c₃) := if first = .clip && increment.isSome then c₂.chomping else (first, c₂)
  guard (isGap c₃.peek)
  let c₄ := c₃.skipSpaces.skipComment
  guard (endsLine c₄.peek)
  return (last, increment, (c₄.lineBreak?.map Prod.snd).getD c₄)

/-- Reads empty lines before the first line of a block, and gives the greatest column that was
reached. -/
def blockIndent : Nat → List Char → Nat → Cursor → List Char × Nat × Cursor
  | 0, breaks, column, c => (breaks, column, c)
  | bound + 1, breaks, column, c =>
    match c.lineBreak? with
    | some (b, c') => blockIndent bound (breaks ++ [b]) column c'
    | none =>
      if c.peek = some ' ' then
        blockIndent bound breaks (max column c.advance.column) c.advance
      else (breaks, column, c)

/-- Moves over spaces up to a column. -/
def skipIndent (indent : Nat) : Nat → Cursor → Cursor
  | 0, c => c
  | bound + 1, c =>
    if c.column < indent && c.peek = some ' ' then skipIndent indent bound c.advance else c

/-- Reads empty lines inside a block, and the indentation of the line behind them. -/
def blockBreaks (indent : Nat) : Nat → List Char → Cursor → List Char × Cursor
  | 0, breaks, c => (breaks, c)
  | bound + 1, breaks, c =>
    let c' := skipIndent indent indent c
    match c'.lineBreak? with
    | some (b, c'') => blockBreaks indent bound (breaks ++ [b]) c''
    | none => (breaks, c')

/-- Reads the lines of a block scalar. `breaks` are the empty lines before the next one. In the end
come the text, the last line ending and the empty lines behind it. -/
def blockLines (folded : Bool) (indent : Nat) :
    Nat → List Char → List Char → Cursor → List Char × List Char × List Char × Cursor
  | 0, text, breaks, c => (text, [], breaks, c)
  | bound + 1, text, breaks, c =>
    let more := c.peek.any fun x => !(x = ' ' || x = '\t')
    let (line, c₁) := c.takeWhile fun x => !isBreak x
    let (ending, c₂) :=
      match c₁.lineBreak? with
      | some (b, c') => ([b], c')
      | none => ([], c₁)
    let (breaks', c₃) := blockBreaks indent (c₂.rest.length + 1) [] c₂
    let text' := text ++ breaks ++ line
    if c₃.column = indent && c₃.peek.isSome then
      let folds := folded && ending = ['\n'] && more &&
        c₃.peek.any fun x => !(x = ' ' || x = '\t')
      let joint := if folds then (if breaks'.isEmpty then [' '] else []) else ending
      blockLines folded indent bound (text' ++ joint) breaks' c₃
    else (text', ending, breaks', c₃)

/-- Reads a block scalar, where the block around it is indented by `outer`. -/
def blockScalar (folded : Bool) (outer : Int) (c : Cursor) : Option (List Char × Cursor) := do
  let (chomp, increment, c₁) ← c.advance.blockHeader
  let least := (max 1 (outer + 1)).toNat
  let bound := c₁.rest.length + 1
  let (breaks, indent, c₂) :=
    match increment with
    | none =>
      let (breaks, column, c') := blockIndent bound [] 0 c₁
      (breaks, max least column, c')
    | some n =>
      let indent := least + n - 1
      let (breaks, c') := blockBreaks indent bound [] c₁
      (breaks, indent, c')
  let (text, ending, last, c₃) :=
    if c₂.column = indent && c₂.peek.isSome then blockLines folded indent bound [] breaks c₂
    else ([], [], breaks, c₂)
  let tail :=
    match chomp with
    | .clip => ending
    | .strip => []
    | .keep => ending ++ last
  return (text ++ tail, c₃)

end Cursor

end Rulebook.Yaml
