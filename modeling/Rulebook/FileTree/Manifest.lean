import Rulebook.FileTree.Edit

/-!
# Manifests

A manifest describes a file tree in lines. Each line is an `Item`: a word that says what it is, the
path, and what belongs to it, with a tab between any two of these.

* `folder`, path: a folder.
* `denied`, path: a folder whose listing is refused.
* `link`, path, target: a link.
* `file`, path, bytes: a file with these bytes, each in two hexadecimal digits.
* `locked`, path: the file there refuses to be read.

The items are put into a tree in order, so a later one may change what an earlier one has put.
-/

namespace Rulebook.FileTree

/-- Something to put into a tree. -/
inductive Item where
  | folder (path : Path)
  | denied (path : Path)
  | link (path : Path) (target : String)
  | file (path : Path) (content : List UInt8)
  | locked (path : Path)
  deriving DecidableEq, Repr

/-- Puts an item into a tree. -/
def put (t : FileTree) : Item → FileTree
  | .folder path => t.putFolder path
  | .denied path => t.putDenied path
  | .link path target => t.putLink path target
  | .file path content => t.putFile path content
  | .locked path => t.lock path

/-! ### Reading -/

/-- The value of a hexadecimal digit. -/
def hexDigit? (c : Char) : Option Nat :=
  if '0' ≤ c ∧ c ≤ '9' then some (c.toNat - '0'.toNat)
  else if 'a' ≤ c ∧ c ≤ 'f' then some (c.toNat - 'a'.toNat + 10)
  else if 'A' ≤ c ∧ c ≤ 'F' then some (c.toNat - 'A'.toNat + 10)
  else none

/-- The bytes that pairs of hexadecimal digits stand for. -/
def hexBytes? : List Char → Option (List UInt8)
  | [] => some []
  | [_] => none
  | c :: d :: rest => do
    let high ← hexDigit? c
    let low ← hexDigit? d
    return UInt8.ofNat (high * 16 + low) :: (← hexBytes? rest)

/-- Cuts a text at each tab. -/
def splitTabs : List Char → List (List Char)
  | [] => [[]]
  | c :: s =>
    if c = '\t' then [] :: splitTabs s
    else
      match splitTabs s with
      | [] => [[c]]
      | t :: ts => (c :: t) :: ts

/-- The item that a line describes. -/
def Item.ofLine? (line : List Char) : Option Item :=
  match (splitTabs line).map String.ofList with
  | ["folder", path] => some (.folder (.ofString path))
  | ["denied", path] => some (.denied (.ofString path))
  | ["locked", path] => some (.locked (.ofString path))
  | ["link", path, target] => some (.link (.ofString path) target)
  | ["file", path, content] => (hexBytes? content.toList).map (.file (.ofString path))
  | _ => none

/-- Puts the items that lines describe into a tree, or gives the first line that describes none.
Empty lines are passed over. -/
def putLines (t : FileTree) : List (List Char) → Except (List Char) FileTree
  | [] => .ok t
  | line :: rest =>
    if line.isEmpty then t.putLines rest
    else
      match Item.ofLine? line with
      | some item => (t.put item).putLines rest
      | none => .error line

/-- The tree that a manifest describes. -/
def ofManifest (t : FileTree) (manifest : String) : Except (List Char) FileTree :=
  t.putLines (Text.lines manifest.toList)

end Rulebook.FileTree
