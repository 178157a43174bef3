import Rulebook.FileTree.Edit
import Rulebook.Proofs.Frontmatter.Delimited
import Rulebook.Proofs.Run.Abreast

/-!
# What a run sees of a file

A run looks at a file for its frontmatter block only, and for nothing but whether it can be read
where the file is skipped. So it comes to one outcome on two trees that list alike below its root,
when each file that the walk finds reads alike in both. A file that changes in the body behind its
block reads alike.

**Main facts.** `SameButBody.readsAlike`: a file reads alike when its body has changed.
`run_sees_frontmatter_only`: trees that list alike and read alike give one outcome.
-/

namespace Rulebook

open Frontmatter

namespace FileTree

variable {t t' : FileTree} {p : Path}

/-- A file is the **same but for its body** in two trees when reading it comes to the same in both
of them, or when its texts have a common start with a block and differ in what follows the last
line of it. -/
def SameButBody (t t' : FileTree) (p : Path) : Prop :=
  t.readText p = t'.readText p ∨
    ∃ head body body', (block? defaultDelimiter head).isSome ∧ FollowsLine body ∧
      FollowsLine body' ∧ t.readText p = .ok (head ++ body) ∧ t'.readText p = .ok (head ++ body')

/-- A file reads alike when its body has changed. -/
theorem SameButBody.readsAlike (h : t.SameButBody t' p) (s : Settings) (root : Path) :
    s.ReadsAlike t t' root p p := by
  rcases h with hsame | ⟨head, body, body', hblock, hbody, hbody', htext, htext'⟩
  · exact Or.inl hsame
  · refine Or.inr ⟨_, _, htext, htext', Or.inr ?_⟩
    rw [block?_append hblock hbody, block?_append hblock hbody']

end FileTree

namespace Settings

variable {t t' : FileTree} {root : Path}

/-- Trees that list alike and read alike give one outcome. -/
private theorem run_eq_of_readsAlike {s : Settings} (h : t.ListsAlike t' root root)
    (hread : ∀ p ∈ (Walk.trace t root s.extension).found, s.ReadsAlike t t' root p p) :
    s.run t root = s.run t' root := by
  obtain ⟨a, ha, ha'⟩ := run_abreast h fun names _ hfound => hread _ hfound
  exact ha.trans ha'.symm

/-- **A run sees nothing of a file but its frontmatter**, and of a file that is skipped not even
that. On two trees that list alike below a root, it comes to one outcome when each file that the
walk finds reads alike, whatever else is in the texts; so it does when files have changed in their
bodies only. -/
theorem run_sees_frontmatter_only (h : t.ListsAlike t' root root) (s : Settings) :
    ((∀ p ∈ (Walk.trace t root s.extension).found, s.ReadsAlike t t' root p p) →
        s.run t root = s.run t' root) ∧
      ((∀ p ∈ (Walk.trace t root s.extension).found, t.SameButBody t' p) →
        s.run t root = s.run t' root) :=
  ⟨run_eq_of_readsAlike h, fun hbody =>
    run_eq_of_readsAlike h fun p hp => (hbody p hp).readsAlike s root⟩

/-- A file that gets a body with two more delimiters, and a skipped one with another text. -/
theorem run_sees_frontmatter_only_of_two_files :
    let t := (({} : FileTree).putFile ⟨.current, ["configs", "a.md"]⟩
      [45, 45, 45, 10, 107, 58, 32, 118, 10, 45, 45, 45]).putFile
        ⟨.current, ["configs", "CLAUDE.md"]⟩ [97]
    let t' := (({} : FileTree).putFile ⟨.current, ["configs", "a.md"]⟩
      [45, 45, 45, 10, 107, 58, 32, 118, 10, 45, 45, 45, 10, 45, 45, 45, 10, 45, 45, 45]).putFile
        ⟨.current, ["configs", "CLAUDE.md"]⟩ [98]
    let root : Path := ⟨.current, ["configs"]⟩
    let s : Settings := {}
    t.SameOutline t' ∧
      (Walk.trace t root s.extension).found = [root.child "CLAUDE.md", root.child "a.md"] ∧
      t.readText (root.child "a.md") ≠ t'.readText (root.child "a.md") ∧
      t.readText (root.child "CLAUDE.md") ≠ t'.readText (root.child "CLAUDE.md") ∧
      s.run t root = s.run t' root := by
  intro t t' root s
  have houtline : t.SameOutline t' := ⟨by rfl, rfl, rfl⟩
  have hfound : (Walk.trace t root s.extension).found =
      [root.child "CLAUDE.md", root.child "a.md"] := by
    decide +kernel
  have hskipped : t.readText (root.child "CLAUDE.md") = .ok "a" ∧
      t'.readText (root.child "CLAUDE.md") = .ok "b" ∧
        s.skips (some root) (root.child "CLAUDE.md") = true := by
    decide +kernel
  have hbody : t.readText (root.child "a.md") = .ok "---\nk: v\n---" ∧
      t'.readText (root.child "a.md") = .ok "---\nk: v\n---\n---\n---" ∧
        block? defaultDelimiter "---\nk: v\n---" =
          block? defaultDelimiter "---\nk: v\n---\n---\n---" := by
    decide +kernel
  refine ⟨houtline, hfound, ?_, ?_, (run_sees_frontmatter_only (houtline.listsAlike root) s).1 ?_⟩
  · rw [hbody.1, hbody.2.1]
    decide
  · rw [hskipped.1, hskipped.2.1]
    decide
  · rw [hfound]
    refine List.forall_mem_cons.mpr ⟨?_, List.forall_mem_singleton.mpr ?_⟩
    · exact Or.inr ⟨_, _, hskipped.1, hskipped.2.1, Or.inl hskipped.2.2⟩
    · exact Or.inr ⟨_, _, hbody.1, hbody.2.1, Or.inr hbody.2.2⟩

end Settings

end Rulebook
