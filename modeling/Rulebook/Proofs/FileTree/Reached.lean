import Rulebook.Proofs.FileTree.Outline
import Mathlib.Data.List.Induction

/-!
# What a walk can reach

From a root, a walk reaches the folders that the listings on its way have named as folders, and in
their listings it is shown the other entries. All that it asks of a tree is whether the root is a
folder, and the listings of the folders that it reaches: two trees **list alike** when they answer
these questions alike.

**Main fact.** `SameOutline.listsAlike`: trees that differ in the bytes of files only list alike.
-/

namespace Rulebook

namespace FileTree

/-- The names that lead from a root to a folder which a walk can **reach**: each of them is in the
listing of the folder before it, as that of a folder. -/
inductive Reaches (t : FileTree) (root : Path) : List String → Prop
  | root : Reaches t root []
  | child {names : List String} {entries : List (String × Bool)} {name : String}
      (h : Reaches t root names) (hlist : t.list (root.append names) = .ok entries)
      (hmem : (name, true) ∈ entries) : Reaches t root (names ++ [name])

/-- What is reached by one more name is in the listing of the folder that is reached before. -/
theorem Reaches.of_concat {t : FileTree} {root : Path} {names : List String} {name : String}
    (h : t.Reaches root (names ++ [name])) :
    t.Reaches root names ∧
      ∃ entries, t.list (root.append names) = .ok entries ∧ (name, true) ∈ entries := by
  generalize hthere : names ++ [name] = there at h
  cases h with
  | root => exact absurd hthere (List.concat_ne_nil name names)
  | child hreach hlist hmem =>
    obtain ⟨rfl, rfl⟩ := List.append_singleton_inj.mp hthere
    exact ⟨hreach, _, hlist, hmem⟩

/-- What is on the way to a folder that is reached is reached. -/
theorem Reaches.of_append {t : FileTree} {root : Path} {names more : List String}
    (h : t.Reaches root (names ++ more)) : t.Reaches root names := by
  induction more using List.reverseRecOn with
  | nil => rwa [List.append_nil] at h
  | append_singleton more name ih =>
    rw [← List.append_assoc] at h
    exact ih h.of_concat.1

/-- The names that lead to an entry which is listed in a folder that a walk can reach, and is no
folder. -/
def Shows (t : FileTree) (root : Path) (names : List String) : Prop :=
  ∃ folder entries name, t.Reaches root folder ∧ t.list (root.append folder) = .ok entries ∧
    (name, false) ∈ entries ∧ names = folder ++ [name]

/-- Two trees **list alike**, each below a root of its own, when both roots are folders or neither
is, and each folder that a walk can reach has the same listing in both, or cannot be listed for the
same reason. -/
structure ListsAlike (t t' : FileTree) (root root' : Path) : Prop where
  isFolder_eq : t.isFolder root = t'.isFolder root'
  list_eq : ∀ names, t.Reaches root names →
    t.list (root.append names) = t'.list (root'.append names)

/-- Trees with one outline list alike below any root. -/
theorem SameOutline.listsAlike {t t' : FileTree} (h : t.SameOutline t') (root : Path) :
    t.ListsAlike t' root root :=
  ⟨h.isFolder_eq root, fun names _ => h.list_eq (root.append names)⟩

end FileTree

end Rulebook
