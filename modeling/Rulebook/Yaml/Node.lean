import Rulebook.Yaml.Event
import Rulebook.Yaml.Tag

/-!
# YAML nodes

The events of a document describe a graph. Each node has a number, and a collection names its
members by their numbers, so that an alias is one more mention of a node; a collection may even
mention itself. `Graph.ofEvents?` builds the graph with a stack of the collections that are open.
An anchor may be used once, and has to stand before its aliases.
-/

namespace Rulebook.Yaml

/-- A node, with the numbers of its members. -/
inductive Node where
  | scalar (tag : Tag) (text : String)
  | sequence (tag : Tag) (items : List Nat)
  | mapping (tag : Tag) (entries : List (Nat × Nat))
  deriving DecidableEq, Repr, Inhabited

/-- A graph of nodes. -/
structure Graph where
  /-- The nodes by their numbers. -/
  nodes : List (Nat × Node)
  /-- The number of the node that the document holds. -/
  root : Nat
  deriving DecidableEq, Repr, Inhabited

namespace Graph

/-- The node with a number. -/
def node? (g : Graph) (id : Nat) : Option Node :=
  g.nodes.lookup id

/-- A collection that is not complete, with the numbers of its members so far. -/
structure Open where
  id : Nat
  tag : Tag
  isMapping : Bool
  members : List Nat := []
  deriving DecidableEq, Repr, Inhabited

/-- What has been built of a graph. -/
structure Builder where
  nodes : List (Nat × Node) := []
  anchors : List (String × Nat) := []
  /-- The open collections, the innermost one first. -/
  stack : List Open := []
  root : Option Nat := none
  /-- The number of the next node. -/
  next : Nat := 0
  deriving Repr, Inhabited

namespace Builder

/-- Mentions a node in the innermost open collection, or as the root. -/
def mention (b : Builder) (id : Nat) : Builder :=
  match b.stack with
  | [] => { b with root := some id }
  | top :: rest => { b with stack := { top with members := top.members ++ [id] } :: rest }

/-- Lets an anchor name the next node. -/
def anchor? (b : Builder) (p : Properties) : Option Builder :=
  match p.anchor with
  | none => some b
  | some name =>
    if (b.anchors.lookup name).isSome then none
    else some { b with anchors := b.anchors ++ [(name, b.next)] }

/-- The tag of a collection. -/
def collectionTag (p : Properties) (default : Tag) : Tag :=
  match p.tag with
  | none => default
  | some full => if full = openTag then default else .ofFull full

/-- The tag of a scalar, which its text may decide. -/
def scalarTag (p : Properties) (resolves : Bool) (text : String) : Tag :=
  if p.tag.isNone || p.tag = some openTag then
    if resolves then .ofPlain text.toList else .text
  else collectionTag p .text

/-- Opens a collection. -/
def openCollection (b : Builder) (p : Properties) (isMapping : Bool) : Option Builder := do
  let b ← b.anchor? p
  let top : Open :=
    { id := b.next, tag := collectionTag p (if isMapping then .mapping else .sequence), isMapping }
  return { b with stack := top :: b.stack, next := b.next + 1 }

/-- The members of a mapping, taken two by two. -/
def pairUp : List Nat → List (Nat × Nat)
  | key :: value :: rest => (key, value) :: pairUp rest
  | _ => []

/-- The node of a collection that is complete. -/
def Open.toNode (o : Open) : Node :=
  if o.isMapping then .mapping o.tag (pairUp o.members) else .sequence o.tag o.members

/-- Adds what an event describes. -/
def step (b : Builder) : Event → Option Builder
  | .alias name => (b.anchors.lookup name).map b.mention
  | .scalar p resolves text => do
    let id := b.next
    let b ← b.anchor? p
    let node := Node.scalar (scalarTag p resolves text) text
    return { b with nodes := (id, node) :: b.nodes, next := id + 1 }.mention id
  | .sequenceStart p => b.openCollection p false
  | .mappingStart p => b.openCollection p true
  | .close =>
    match b.stack with
    | [] => none
    | top :: rest =>
      some ({ b with nodes := (top.id, Open.toNode top) :: b.nodes, stack := rest }.mention top.id)

end Builder

/-- The graph that events describe, if there is one. -/
def ofEvents? (events : List Event) : Option Graph := do
  let b ← events.foldlM Builder.step {}
  return ⟨b.nodes, ← b.root⟩

/-! ### Merging mappings -/

/-- The numbers of the mappings that a merge key brings in, the last one first. -/
def mergedIds (g : Graph) (value : Nat) : Option (List Nat) :=
  match g.node? value with
  | some (.mapping _ _) => some [value]
  | some (.sequence _ items) =>
    if items.all fun id => (g.node? id).any fun n => n matches .mapping _ _ then
      some items.reverse
    else none
  | _ => none

/-- Whether a node is a merge key. -/
def isMergeKey (g : Graph) (id : Nat) : Bool :=
  match g.node? id with
  | some (.scalar .merge _) => true
  | _ => false

/-- The entries of a mapping, with those that are merged in before its own. Mappings that are being
merged, listed in `visiting`, contribute only their own entries. -/
def entries? (g : Graph) (visiting : List Nat) : Nat → Nat → Option (List (Nat × Nat))
  | 0, _ => none
  | bound + 1, id =>
    match g.node? id with
    | some (.mapping _ entries) =>
      let own := entries.filter fun entry => !g.isMergeKey entry.1
      if visiting.contains id then some own
      else do
        let merges := entries.filter fun entry => g.isMergeKey entry.1
        let ids ← merges.mapM fun entry => g.mergedIds entry.2
        let merged ← ids.flatten.mapM fun other => g.entries? (id :: visiting) bound other
        return merged.flatten ++ own
    | _ => none

end Graph

end Rulebook.Yaml
