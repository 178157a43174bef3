import Rulebook.FileTree.Basic
import Rulebook.Path
import Rulebook.Text.Lines
import Rulebook.Text.Quoted
import Rulebook.Text.Utf8

/-!
# Looking things up in a file tree

`resolve` follows a path segment by segment to a location and the entry there. A link stands for
what its target leads to; at most `maxLinks` links are followed. Listing and reading are built on
it: `list` says which entries of a folder are folders themselves, `readText` decodes a file and
gives it one kind of line ending.

A look-up fails where an entry is missing, where a file stands in for a folder, and where there are
too many links. A folder that may not be searched and a name that is too long are no states of a
tree; on a host they are refusals.
-/

namespace Rulebook.FileTree

/-- The number of links that one look-up may follow. -/
def maxLinks : Nat := 40

/-- Follows names from the folder at a location. What a link leads to is left to `follow`, which
gets the location to go on from and the names to follow there. -/
def followNames (top : Entry)
    (follow : Location → List String → Except Fault (Location × Entry)) :
    Location → List String → Except Fault (Location × Entry)
  | here, [] =>
    match top.descend? here with
    | some e => .ok (here, e)
    | none => .error .notFound
  | here, name :: rest =>
    if name = "" || name = "." then followNames top follow here rest
    else if name = ".." then followNames top follow here.dropLast rest
    else
      match top.descend? (here ++ [name]) with
      | none => .error .notFound
      | some (.folder _) => followNames top follow (here ++ [name]) rest
      | some (.file content) =>
        if rest.isEmpty then .ok (here ++ [name], .file content) else .error .notAFolder
      | some (.link target) =>
        let names := (Path.splitSlashes target.toList).map String.ofList
        follow (if target.toList.head? = some '/' then [] else here) (names ++ rest)

/-- Follows names, and at most the given number of links on the way. -/
def resolveNames (top : Entry) : Nat → Location → List String → Except Fault (Location × Entry)
  | 0 => followNames top fun _ _ => .error .tooManyLinks
  | links + 1 => followNames top (resolveNames top links)

/-- The location at which a path with an anchor starts. -/
def startOf (t : FileTree) (anchor : Anchor) : Location :=
  if anchor = .current then t.current else []

/-- The location that a path leads to, and the entry there. -/
def resolve (t : FileTree) (p : Path) : Except Fault (Location × Entry) :=
  resolveNames t.top maxLinks (t.startOf p.anchor) p.segments

/-- The entry that a written path leads to. A slash at the end asks for a folder, and an empty text
leads nowhere. -/
def entryAt? (t : FileTree) (written : List Char) : Option Entry :=
  if written.isEmpty then none
  else
    let names := (Path.splitSlashes written).map String.ofList
    match resolveNames t.top maxLinks (t.startOf (Path.anchorOf written)) names with
    | .ok (_, e) => some e
    | .error _ => none

/-- Whether a path leads to something. -/
def exists? (t : FileTree) (p : Path) : Bool :=
  (t.resolve p).isOk

/-- Whether a path leads to a folder. -/
def isFolder (t : FileTree) (p : Path) : Bool :=
  match t.resolve p with
  | .ok (_, e) => e.isFolder
  | .error _ => false

/-- The names in the folder that a path leads to, in order, and which of them are folders
themselves. -/
def list (t : FileTree) (p : Path) : Except Fault (List (String × Bool)) :=
  match t.resolve p with
  | .error fault => .error fault
  | .ok (here, .folder children) =>
    if t.denied.contains here then .error .accessDenied
    else .ok (children.map fun child => (child.1, child.2.isFolder))
  | .ok _ => .error .notAFolder

/-- The bytes of the file that a path leads to. -/
def readBytes (t : FileTree) (p : Path) : Except Fault (List UInt8) :=
  match t.resolve p with
  | .error fault => .error fault
  | .ok (here, .file content) =>
    if t.locked.contains here then .error .accessDenied else .ok content
  | .ok _ => .error .isAFolder

/-! ### Reading text -/

/-- Why a file cannot be read as text. -/
inductive TextFault where
  | unreadable (fault : Fault)
  | undecodable (fault : Text.Utf8.Fault)
  deriving DecidableEq, Repr

/-- The text of the file that a path leads to, with line feeds as its only line endings. -/
def readText (t : FileTree) (p : Path) : Except TextFault String :=
  match t.readBytes p with
  | .error fault => .error (.unreadable fault)
  | .ok bytes =>
    match Text.Utf8.decode bytes with
    | .error fault => .error (.undecodable fault)
    | .ok text => .ok (String.ofList (Text.unifyNewlines text))

/-- A fault at a path in words. -/
def Fault.message (fault : Fault) (p : Path) : String :=
  "[Errno " ++ toString fault.number ++ "] " ++ fault.describe ++ ": " ++ Text.quote p.toString

/-- A fault in reading the file at a path in words. -/
def TextFault.message (p : Path) : TextFault → String
  | .unreadable fault => fault.message p
  | .undecodable fault => fault.message

end Rulebook.FileTree
