import Rulebook.FileTree.Resolve
import Rulebook.Problem

/-!
# Walking a file tree

A `Walk` finds the entries below a root whose names end in an extension. It is lazy: a folder is
listed when the walk enters it, and the tree may change between two steps. What the listing of a
folder says is settled then: its entries other than folders are `ready` to be found, in order, and
its folders are `pending`, to be entered in order before any folder that was pending already. A
link is never a folder here, so links are not followed below the root.

`Walk.step` does the least there is to do, `Walk.next` goes on until there is something to report,
and `Walk.trace` runs a walk to its end on a tree that stays as it is.

This is the walker of `rulelint`, all of it. The order of a listing is that of the tree, and a
listing says of each entry whether it is a folder, so an entry that cannot be looked up afterwards
stops no walk.
-/

namespace Rulebook

/-- How far a walk has come. -/
inductive Walk.Stage where
  /-- Nothing has been looked at. -/
  | fresh
  /-- The paths that are ready to be found, and the folders to enter after that. -/
  | active (ready pending : List Path)
  /-- There is nothing left to do. -/
  | finished
  deriving DecidableEq, Repr, Inhabited

/-- A search for files below a root. -/
structure Walk where
  root : Path
  extension : String
  stage : Walk.Stage := .fresh
  deriving DecidableEq, Repr, Inhabited

namespace Walk

/-- What a step of a walk has done. -/
inductive Event where
  /-- It has begun at the root, or entered a folder. -/
  | moved
  /-- It has found a file. -/
  | found (path : Path)
  /-- It has come to its end. -/
  | ended
  /-- It has met a folder that cannot be listed, and come to its end. -/
  | failed (problem : Problem)
  deriving DecidableEq, Repr, Inhabited

/-- The problem of a folder that cannot be listed: the root has a name of its own. -/
def folderProblem (root folder : Path) (fault : FileTree.Fault) : Problem :=
  if folder = root then .rootFolder folder (fault.message folder)
  else .folder folder (fault.message folder) Problem.folderNoun

/-- Whether a name ends in an extension. -/
def hasEnding (extension name : String) : Bool :=
  extension.toList.isSuffixOf name.toList

/-- The paths of those entries of a folder that are no folders and whose names end in
`extension`. -/
def filesIn (extension : String) (folder : Path) (entries : List (String × Bool)) : List Path :=
  (entries.filter fun entry => !entry.2 && hasEnding extension entry.1).map fun entry =>
    folder.child entry.1

/-- The paths of those entries of a folder that are folders. -/
def foldersIn (folder : Path) (entries : List (String × Bool)) : List Path :=
  (entries.filter fun entry => entry.2).map fun entry => folder.child entry.1

/-- One step of a walk: begin, find the next file that is ready, or enter the next folder that is
pending. -/
def step (t : FileTree) (w : Walk) : Event × Walk :=
  match w.stage with
  | .fresh =>
    if t.isFolder w.root then (.moved, { w with stage := .active [] [w.root] })
    else (.ended, { w with stage := .finished })
  | .active (path :: ready) pending => (.found path, { w with stage := .active ready pending })
  | .active [] (folder :: pending) =>
    match t.list folder with
    | .ok entries =>
      (.moved,
        { w with
          stage := .active (filesIn w.extension folder entries)
            (foldersIn folder entries ++ pending) })
    | .error fault =>
      (.failed (folderProblem w.root folder fault), { w with stage := .finished })
  | .active [] [] => (.ended, { w with stage := .finished })
  | .finished => (.ended, w)

/-- Steps until there is something to report, at most `bound` times. -/
def nextWithin (t : FileTree) : Nat → Walk → Event × Walk
  | 0, w => (.ended, { w with stage := .finished })
  | bound + 1, w =>
    match w.step t with
    | (.moved, w') => nextWithin t bound w'
    | result => result

/-- The number of folders that are pending, where the root counts before the walk begins. -/
def pendingCount (w : Walk) : Nat :=
  match w.stage with
  | .fresh => 1
  | .active _ pending => pending.length
  | .finished => 0

/-- Enough steps to come to a report: below each folder that is pending there are no more folders
than the tree has entries. -/
def nextBound (t : FileTree) (w : Walk) : Nat :=
  w.pendingCount * (t.size + 1) + 2

/-- Goes on until a file is found or the walk has ended. -/
def next (t : FileTree) (w : Walk) : Event × Walk :=
  nextWithin t (w.nextBound t) w

/-- What a walk finds, and the problem that it ends with, if it does. -/
structure Trace where
  found : List Path := []
  failure : Option Problem := none
  deriving DecidableEq, Repr, Inhabited

/-- Steps to the end of a walk, at most `bound` times. -/
def traceWithin (t : FileTree) : Nat → Walk → Trace
  | 0, _ => {}
  | bound + 1, w =>
    match w.step t with
    | (.moved, w') => traceWithin t bound w'
    | (.found path, w') =>
      let rest := traceWithin t bound w'
      { rest with found := path :: rest.found }
    | (.ended, _) => {}
    | (.failed problem, _) => { failure := some problem }

/-- Enough steps for a whole walk: it begins, enters each folder once, finds each other entry once,
and ends. -/
def bound (t : FileTree) : Nat :=
  t.size + 3

/-- A whole walk on a tree that stays as it is. -/
def trace (t : FileTree) (root : Path) (extension : String) : Trace :=
  traceWithin t (bound t) { root, extension }

end Walk

end Rulebook
