import Rulebook.FileTree.Resolve

/-!
# Changing a file tree

Files, links and folders are put at a path, and the folders on the way are made as needed. Removing
takes away a folder with all that is in it; removing what is not there changes nothing. Nothing is
put under a text that cannot be a name.
-/

namespace Rulebook.FileTree

/-- Goes to the folder that names lead to from a location, and makes the folders that are missing.
There is no such folder if a file stands in the way. -/
def enter (t : FileTree) : Location → List String → FileTree × Option Location
  | here, [] => (t, some here)
  | here, name :: rest =>
    if name = ".." then t.enter here.dropLast rest
    else
      match t.top.descend? (here ++ [name]) with
      | none =>
        (t.place (here ++ [name]) (.folder []) Entry.isSound_emptyFolder).enter
          (here ++ [name]) rest
      | some (.folder _) => t.enter (here ++ [name]) rest
      | some (.file _) => (t, none)
      | some (.link _) =>
        match resolveNames t.top maxLinks here [name] with
        | .ok (there, .folder _) => t.enter there rest
        | _ => (t, none)

/-- Makes the folder at a path. -/
def putFolder (t : FileTree) (p : Path) : FileTree :=
  (t.enter (t.startOf p.anchor) p.segments).1

/-- A tree that holds nothing but the current folder, which is empty. -/
def inFolder (name : String) : FileTree :=
  { ({} : FileTree).putFolder ⟨.top, [name]⟩ with current := [name] }

/-- Puts a sound entry at a path, in place of what was there. -/
def putEntry (t : FileTree) (p : Path) (e : Entry) (he : e.IsSound) : FileTree :=
  match p.segments.getLast?, t.enter (t.startOf p.anchor) p.segments.dropLast with
  | some name, (made, some here) => made.place (here ++ [name]) e he
  | _, (made, _) => made

/-- Puts a file at a path. Where a link stands there that leads to a file, that file is
overwritten. -/
def putFile (t : FileTree) (p : Path) (content : List UInt8) : FileTree :=
  match t.resolve p with
  | .ok (here, .file _) => t.place here (.file content) (.file content)
  | _ => t.putEntry p (.file content) (.file content)

/-- Puts a link at a path. -/
def putLink (t : FileTree) (p : Path) (target : String) : FileTree :=
  t.putEntry p (.link target) (.link target)

/-- Makes the folder at a path, and refuses its listing from now on. -/
def putDenied (t : FileTree) (p : Path) : FileTree :=
  match t.enter (t.startOf p.anchor) p.segments with
  | (made, some here) => { made with denied := here :: made.denied }
  | (made, none) => made

/-- Makes the file that a path leads to refuse to be read from now on. -/
def lock (t : FileTree) (p : Path) : FileTree :=
  match t.resolve p with
  | .ok (here, .file _) => { t with locked := here :: t.locked }
  | _ => t

/-- Takes away what stands at a path, without following a link there. -/
def remove (t : FileTree) (p : Path) : FileTree :=
  match p.segments.getLast? with
  | none => t
  | some name =>
    match t.resolve { p with segments := p.segments.dropLast } with
    | .ok (here, .folder _) => t.clear (here ++ [name])
    | _ => t

end Rulebook.FileTree
