import Rulebook.FileTree.Resolve

/-!
# Hosts

A `Host` is a file tree on a system that may refuse things to a process. A path is looked up there
as it is written. To look up a path that leads nowhere is no fault; a **refusal** is any other way
in which the look-up fails, for instance because a folder on the way may not be searched, or because
a name is too long. Apart from that, the process may or may not read what a path leads to.

What a run meets below its root is told by the tree alone: a folder that cannot be listed and a file
that cannot be read are problems of the run, and a listing tells which entries are folders, so they
are not looked up again. Refusals to write, to run and to rename are left out, since nothing is
changed.
-/

namespace Rulebook

/-- A fault in looking up a path that does not say that the path leads nowhere. -/
structure Host.Refusal where
  /-- The number of the fault. -/
  number : Nat
  /-- The fault in words. -/
  text : String
  deriving DecidableEq, Repr, Inhabited

/-- A refusal to look up a path in words. -/
def Host.Refusal.message (r : Refusal) (p : Path) : String :=
  "[Errno " ++ toString r.number ++ "] " ++ r.text ++ ": " ++ Text.quote p.toString

/-- A file tree, and what its system refuses to a process. -/
structure Host where
  tree : FileTree
  /-- The refusal to look up a written path, if it is refused. -/
  refusal? : String → Option Host.Refusal := fun _ => none
  /-- Whether the process may read what a written path leads to. -/
  mayRead : String → Bool := fun _ => true

namespace Host

/-- A tree stands for itself on a system that refuses nothing. -/
instance : Coe FileTree Host where
  coe tree := { tree }

/-- The entry that a written path leads to, as far as it can be looked up. -/
def entryAt? (h : Host) (written : String) : Option Entry :=
  match h.refusal? written with
  | some _ => none
  | none => h.tree.entryAt? written.toList

/-- The refusal to look up a path, if it is refused. -/
def refusalAt? (h : Host) (p : Path) : Option Refusal :=
  h.refusal? p.toString

@[simp] theorem refusalAt?_tree (t : FileTree) (p : Path) : (t : Host).refusalAt? p = none :=
  rfl

end Host

end Rulebook
