import Rulebook.Yaml.Node
import Rulebook.Yaml.Scalar
import Rulebook.Yaml.Token.Scan

/-!
# YAML documents as values

A `Document` is a root value and a table of collections; values mention collections by number, as
nodes do, because they may contain each other. `Document.ofGraph` visits the collections level by
level from the root on, so of two faults the one nearer to the root is found first, and
`Document.parse` reads a text from start to end.

A mapping keeps the first of two keys that are the same and the last of their values.

This is a reader of YAML 1.1 that makes plain data, without tags of one's own. Left out are the
texts that say what is malformed, limits on the depth of a document, and the order of a set, which
is shown as it is written. Half of a surrogate pair is no character, so a text with one is
malformed, and so is an escape beyond the last character.
-/

namespace Rulebook.Yaml

/-- A value in a document. -/
inductive Value where
  | scalar (s : Scalar)
  | pair (key value : Value)
  | collection (id : Nat)
  deriving DecidableEq, Repr, Inhabited

/-- A value with members. -/
inductive Collection where
  | list (items : List Value)
  | mapping (entries : List (Scalar × Value))
  | set (members : List Scalar)
  deriving DecidableEq, Repr, Inhabited

/-- A document: its collections by their numbers, and what it holds. -/
structure Document where
  collections : List (Nat × Collection)
  root : Value
  deriving DecidableEq, Repr, Inhabited

namespace Document

/-- The collection that a value mentions. -/
def collection? (d : Document) : Value → Option Collection
  | .collection id => d.collections.lookup id
  | _ => none

/-! ### Building -/

/-- The text of a node that should be a scalar. A mapping with a marked value stands for it. -/
def scalarText? (g : Graph) : Nat → Nat → Option String
  | 0, _ => none
  | bound + 1, id =>
    match g.node? id with
    | some (.scalar _ text) => some text
    | some (.mapping _ entries) =>
      let isMark := fun (entry : Nat × Nat) =>
        match g.node? entry.1 with
        | some (.scalar .value _) => true
        | _ => false
      (entries.find? isMark).bind fun entry => scalarText? g bound entry.2
    | _ => none

/-- The tag of a node. -/
def tagOf (g : Graph) (id : Nat) : Tag :=
  match g.node? id with
  | some (.scalar tag _) => tag
  | some (.sequence tag _) => tag
  | some (.mapping tag _) => tag
  | none => .unknown

/-- Whether a tag stands for a collection. -/
def isCollectionTag : Tag → Bool
  | .sequence => true
  | .mapping => true
  | .set => true
  | .orderedPairs => true
  | .pairs => true
  | _ => false

/-- The value of a node: a scalar at once, a collection by its number. -/
def valueOf (g : Graph) (id : Nat) : Except Failure Value :=
  let tag := tagOf g id
  if isCollectionTag tag then .ok (.collection id)
  else
    match scalarText? g (g.nodes.length + 1) id with
    | some text => (Scalar.ofText tag text).map .scalar
    | none => .error .malformed

/-- The value of a key, which has to be a scalar. The mark of a value is a text as a key. -/
def keyOf (g : Graph) (id : Nat) : Except Failure Scalar := do
  match g.node? id with
  | some (.scalar .value text) => return .text text
  | _ =>
    match ← valueOf g id with
    | .scalar s => return s
    | _ => throw .malformed

/-- Gives a key a value: a key that is there keeps its place and its form. -/
def insert (key : Scalar) (value : Value) : List (Scalar × Value) → List (Scalar × Value)
  | [] => [(key, value)]
  | (k, v) :: rest => if k.same key then (k, value) :: rest else (k, v) :: insert key value rest

/-- The entries of a mapping node as they are written, so a key may be there more than once. -/
def writtenEntries (g : Graph) (id : Nat) : Except Failure (List (Scalar × Value)) := do
  match g.entries? [] (g.nodes.length + 1) id with
  | none => throw .malformed
  | some entries =>
    entries.mapM fun entry => do
      let key ← keyOf g entry.1
      return (key, ← valueOf g entry.2)

/-- Gathers written entries, so that no key is there twice. -/
def gather (entries : List (Scalar × Value)) : List (Scalar × Value) :=
  entries.foldl (fun done entry => insert entry.1 entry.2 done) []

/-- The pairs of a sequence node, each written as a mapping with one entry. -/
def pairsOf (g : Graph) (items : List Nat) : Except Failure (List Value) :=
  items.mapM fun id => do
    match g.node? id with
    | some (.mapping _ [(key, value)]) => return .pair (← valueOf g key) (← valueOf g value)
    | _ => throw .malformed

/-- The collection that a node with the tag of a collection stands for, and all values that are
written in it. -/
def collectionOf (g : Graph) (id : Nat) : Except Failure (Collection × List Value) := do
  match tagOf g id, g.node? id with
  | .sequence, some (.sequence _ items) =>
    let members ← items.mapM (valueOf g)
    return (.list members, members)
  | .mapping, some (.mapping _ _) =>
    let entries ← writtenEntries g id
    return (.mapping (gather entries), entries.map Prod.snd)
  | .set, some (.mapping _ _) =>
    let entries ← writtenEntries g id
    return (.set ((gather entries).map Prod.fst), entries.map Prod.snd)
  | .orderedPairs, some (.sequence _ items) =>
    let pairs ← pairsOf g items
    return (.list pairs, pairs)
  | .pairs, some (.sequence _ items) =>
    let pairs ← pairsOf g items
    return (.list pairs, pairs)
  | _, _ => throw .malformed

/-- The numbers of the collections that a value mentions. -/
def mentions : Value → List Nat
  | .scalar _ => []
  | .pair key value => mentions key ++ mentions value
  | .collection id => [id]

/-- Builds the collections in the queue, and those that are written in them behind them. A value
that a later one replaces is built too. -/
def build (g : Graph) :
    Nat → List Nat → List (Nat × Collection) → Except Failure (List (Nat × Collection))
  | _, [], done => .ok done
  | 0, _ :: _, _ => .error .malformed
  | bound + 1, id :: queue, done =>
    if (done.lookup id).isSome then build g bound queue done
    else do
      let (c, written) ← collectionOf g id
      build g bound (queue ++ (written.flatMap mentions).eraseDups) (done ++ [(id, c)])

/-- Enough steps to build a graph: each node mentions each node at most once. -/
def bound (g : Graph) : Nat :=
  g.nodes.length * g.nodes.length + 1

/-- The document that a graph stands for. -/
def ofGraph (g : Graph) : Except Failure Document := do
  let root ← valueOf g g.root
  return ⟨← build g (bound g) (mentions root) [], root⟩

/-- The document that holds nothing. -/
def empty : Document :=
  ⟨[], .scalar .null⟩

/-- Reads a YAML text with line feeds as its line endings. A text without a document stands for the
empty one. -/
def parse (text : String) : Except Failure Document :=
  match (Token.scan text.toList).bind Event.ofTokens? with
  | none => .error .malformed
  | some [] => .ok empty
  | some events =>
    match Graph.ofEvents? events with
    | none => .error .malformed
    | some g => ofGraph g

/-! ### Printing -/

mutual

/-- Shows a value. A collection that is being shown, which `visiting` lists, is left out. -/
def renderWithin (d : Document) (visiting : List Nat) : Nat → Value → String
  | _, .scalar s => s.render
  | 0, _ => ""
  | bound + 1, .pair key value =>
    "(" ++ d.renderWithin visiting bound key ++ ", " ++ d.renderWithin visiting bound value ++ ")"
  | bound + 1, .collection id =>
    let isOpen := visiting.contains id
    match d.collections.lookup id with
    | none => ""
    | some (.list items) =>
      if isOpen then "[...]"
      else "[" ++ ", ".intercalate (d.renderItems (id :: visiting) bound items) ++ "]"
    | some (.mapping entries) =>
      if isOpen then "\x7b...\x7d"
      else "\x7b" ++ ", ".intercalate (d.renderEntries (id :: visiting) bound entries) ++ "\x7d"
    | some (.set members) =>
      if members.isEmpty then "set()"
      else "\x7b" ++ ", ".intercalate (members.map Scalar.render) ++ "\x7d"

/-- Shows values. -/
def renderItems (d : Document) (visiting : List Nat) (bound : Nat) : List Value → List String
  | [] => []
  | item :: items => d.renderWithin visiting bound item :: d.renderItems visiting bound items

/-- Shows the entries of a mapping. -/
def renderEntries (d : Document) (visiting : List Nat) (bound : Nat) :
    List (Scalar × Value) → List String
  | [] => []
  | (key, value) :: entries =>
    (key.render ++ ": " ++ d.renderWithin visiting bound value) ::
      d.renderEntries visiting bound entries

end

/-- Shows a value, so that its kind and its members can be seen. Between two collections a value
is at most a pair deep. -/
def render (d : Document) (v : Value) : String :=
  d.renderWithin [] (2 * d.collections.length + 3) v

end Document

end Rulebook.Yaml
