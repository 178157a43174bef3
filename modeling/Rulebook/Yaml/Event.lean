import Rulebook.Yaml.Token

/-!
# YAML events

The tokens of a document, read by the grammar of YAML, give a list of events: scalars and aliases,
and the starts and ends of collections. `Event.ofTokens?` is a machine with a stack of things that
are expected. Each step takes the topmost one, reads what it can, and says what is expected next; a
document is well formed if nothing is expected in the end and no token is left.
-/

namespace Rulebook.Yaml

/-- The properties that may stand before a node. -/
structure Properties where
  anchor : Option String := none
  tag : Option String := none
  deriving DecidableEq, Repr, Inhabited

/-- A step in the description of a document. -/
inductive Event where
  | alias (name : String)
  /-- A scalar, and whether its text decides its tag where none is given. -/
  | scalar (properties : Properties) (resolves : Bool) (text : String)
  | sequenceStart (properties : Properties)
  | mappingStart (properties : Properties)
  /-- The end of the innermost collection. -/
  | close
  deriving DecidableEq, Repr, Inhabited

/-- The tag that leaves the choice of a tag to the text. -/
def openTag : String := "!"

/-- The scalar that stands where a node is left out. -/
def Event.empty : Event :=
  .scalar {} true ""

/-- What is expected in a document. -/
inductive Expected where
  /-- A node; block collections only `inBlock`, and a sequence without an indentation of its own
  only where it is `indentless`. -/
  | node (inBlock indentless : Bool)
  | blockSequenceEntry
  | indentlessEntry
  | blockMappingKey
  | blockMappingValue
  /-- An entry of a flow sequence, before which there is a comma unless it is the first. -/
  | flowSequenceEntry (first : Bool)
  /-- The key of a mapping that is an entry of a flow sequence. -/
  | pairKey
  | pairValue
  | pairEnd
  | flowMappingKey (first : Bool)
  | flowMappingValue
  /-- The value of a key without a colon. -/
  | flowMappingNoValue
  deriving DecidableEq, Repr, Inhabited

namespace Event

/-- What each tag handle stands for. -/
abbrev Handles := List (String × String)

/-- The handles that need no directive. -/
def defaultHandles : Handles :=
  [("!", "!"), ("!!", "tag:yaml.org,2002:")]

/-- The full form of a written tag. -/
def fullTag? (handles : Handles) (written : WrittenTag) : Option String :=
  match written.handle with
  | none => some written.rest
  | some handle => (handles.lookup handle).map fun start => start ++ written.rest

/-- Reads the properties of a node: an anchor and a tag, in either order. -/
def properties? (handles : Handles) : List Token → Option (Properties × List Token)
  | .anchor name :: .tag written :: rest => do
    return (⟨some name, ← fullTag? handles written⟩, rest)
  | .anchor name :: rest => some (⟨some name, none⟩, rest)
  | .tag written :: .anchor name :: rest => do
    return (⟨some name, ← fullTag? handles written⟩, rest)
  | .tag written :: rest => do return (⟨none, ← fullTag? handles written⟩, rest)
  | tokens => some ({}, tokens)

/-- What a step has read, what is expected next, and the tokens that are left. -/
abbrev Step := List Event × List Expected × List Token

/-- Reads a node. -/
def readNode (handles : Handles) (inBlock indentless : Bool) (tokens : List Token) :
    Option Step := do
  match tokens with
  | .alias name :: rest => return ([.alias name], [], rest)
  | _ =>
    let (p, tokens) ← properties? handles tokens
    let resolves := p.tag.isNone || p.tag = some openTag
    match tokens with
    | .blockEntry :: _ =>
      if indentless then return ([.sequenceStart p], [.indentlessEntry], tokens)
      else if p = {} then none
      else return ([.scalar p resolves ""], [], tokens)
    | .scalar text plain :: rest =>
      return ([.scalar p ((plain && p.tag.isNone) || p.tag = some openTag) text], [], rest)
    | .flowSequenceStart :: rest => return ([.sequenceStart p], [.flowSequenceEntry true], rest)
    | .flowMappingStart :: rest => return ([.mappingStart p], [.flowMappingKey true], rest)
    | token :: rest =>
      if inBlock && token = .blockSequenceStart then
        return ([.sequenceStart p], [.blockSequenceEntry], rest)
      else if inBlock && token = .blockMappingStart then
        return ([.mappingStart p], [.blockMappingKey], rest)
      else if p = {} then none
      else return ([.scalar p resolves ""], [], tokens)
    | [] => if p = {} then none else return ([.scalar p resolves ""], [], tokens)

/-- Expects a node and then `next`, or takes the node as left out if one of `stops` comes. -/
def nodeUnless (stops : List Token) (indentless : Bool) (next : Expected) (inBlock : Bool)
    (tokens : List Token) : Step :=
  match tokens with
  | token :: _ =>
    if stops.contains token then ([.empty], [next], tokens)
    else ([], [.node inBlock indentless, next], tokens)
  | [] => ([], [.node inBlock indentless, next], tokens)

/-- Reads what is expected. -/
def step (handles : Handles) (expected : Expected) (tokens : List Token) : Option Step :=
  match expected, tokens with
  | .node inBlock indentless, tokens => readNode handles inBlock indentless tokens
  | .blockSequenceEntry, .blockEntry :: rest =>
    some (nodeUnless [.blockEntry, .blockEnd] false .blockSequenceEntry true rest)
  | .blockSequenceEntry, .blockEnd :: rest => some ([.close], [], rest)
  | .blockSequenceEntry, _ => none
  | .indentlessEntry, .blockEntry :: rest =>
    some (nodeUnless [.blockEntry, .key, .value, .blockEnd] false .indentlessEntry true rest)
  | .indentlessEntry, tokens => some ([.close], [], tokens)
  | .blockMappingKey, .key :: rest =>
    some (nodeUnless [.key, .value, .blockEnd] true .blockMappingValue true rest)
  | .blockMappingKey, .blockEnd :: rest => some ([.close], [], rest)
  | .blockMappingKey, _ => none
  | .blockMappingValue, .value :: rest =>
    some (nodeUnless [.key, .value, .blockEnd] true .blockMappingKey true rest)
  | .blockMappingValue, tokens => some ([.empty], [.blockMappingKey], tokens)
  | .flowSequenceEntry first, tokens => do
    match tokens with
    | .flowSequenceEnd :: rest => return ([.close], [], rest)
    | _ =>
      match ← (if first then some tokens else afterComma? tokens) with
      | .key :: rest => return ([.mappingStart {}], [.pairKey, .flowSequenceEntry false], rest)
      | .flowSequenceEnd :: rest => return ([.close], [], rest)
      | tokens => return ([], [.node false false, .flowSequenceEntry false], tokens)
  | .pairKey, tokens =>
    some (nodeUnless [.value, .flowEntry, .flowSequenceEnd] false .pairValue false tokens)
  | .pairValue, .value :: rest =>
    some (nodeUnless [.flowEntry, .flowSequenceEnd] false .pairEnd false rest)
  | .pairValue, tokens => some ([.empty], [.pairEnd], tokens)
  | .pairEnd, tokens => some ([.close], [], tokens)
  | .flowMappingKey first, tokens => do
    match tokens with
    | .flowMappingEnd :: rest => return ([.close], [], rest)
    | _ =>
      match ← (if first then some tokens else afterComma? tokens) with
      | .key :: rest =>
        return nodeUnless [.value, .flowEntry, .flowMappingEnd] false .flowMappingValue false rest
      | .flowMappingEnd :: rest => return ([.close], [], rest)
      | tokens => return ([], [.node false false, .flowMappingNoValue], tokens)
  | .flowMappingValue, .value :: rest =>
    some (nodeUnless [.flowEntry, .flowMappingEnd] false (.flowMappingKey false) false rest)
  | .flowMappingValue, tokens => some ([.empty], [.flowMappingKey false], tokens)
  | .flowMappingNoValue, tokens => some ([.empty], [.flowMappingKey false], tokens)
where
  /-- Reads a comma. -/
  afterComma? : List Token → Option (List Token)
    | .flowEntry :: rest => some rest
    | _ => none

/-- Reads everything that is expected, in at most `bound` steps. -/
def readAll (handles : Handles) :
    Nat → List Expected → List Token → Option (List Event × List Token)
  | _, [], tokens => some ([], tokens)
  | 0, _ :: _, _ => none
  | bound + 1, expected :: others, tokens => do
    let (events, next, tokens') ← step handles expected tokens
    let (events', rest) ← readAll handles bound (next ++ others) tokens'
    return (events ++ events', rest)

/-- Enough steps: between two tokens that are read, at most three steps read none. -/
def bound (tokens : List Token) : Nat :=
  4 * tokens.length + 8

/-! ### Directives and documents -/

/-- What directives have said. -/
structure Directives where
  version : Option Nat := none
  handles : Handles := []

/-- Reads directives. The version may be given once and has to be 1; a handle may be explained
once. -/
def directives? : Directives → List Token → Option (Directives × List Token)
  | ds, .directive d :: rest =>
    match d with
    | .version major =>
      if ds.version.isSome || major ≠ 1 then none
      else directives? { ds with version := some major } rest
    | .handle name meaning =>
      if (ds.handles.lookup name).isSome then none
      else directives? { ds with handles := ds.handles ++ [(name, meaning)] } rest
    | .other => directives? ds rest
  | ds, tokens => some (ds, tokens)

/-- Whether a document that begins with these tokens holds nothing. -/
def endsDocument : List Token → Bool
  | [] => true
  | .directive _ :: _ => true
  | .documentStart :: _ => true
  | .documentEnd :: _ => true
  | _ => false

/-- Reads the node that a document holds, and the tokens behind it. -/
def document? (tokens : List Token) : Option (List Event × List Token) :=
  match tokens with
  | .directive _ :: _ => explicit tokens
  | .documentStart :: _ => explicit tokens
  | _ => readAll defaultHandles (bound tokens) [.node true false] tokens
where
  /-- Reads a document that begins with directives and a marker. -/
  explicit (tokens : List Token) : Option (List Event × List Token) := do
    match ← directives? {} tokens with
    | (ds, .documentStart :: rest) =>
      if endsDocument rest then return ([.empty], rest)
      else
        readAll (ds.handles ++ defaultHandles) (bound rest) [.node true false] rest
    | _ => none

/-- The events of the only document, none if there is no document, unless the tokens are not those
of at most one document. -/
def ofTokens? (tokens : List Token) : Option (List Event) :=
  match tokens with
  | [] => some []
  | tokens => do
    let (events, rest) ← document? tokens
    guard ((rest.dropWhile fun token => token = .documentEnd).isEmpty)
    return events

end Event

end Rulebook.Yaml
