import Rulebook.Proofs.Validation.Verdict
import Rulebook.Report
import Mathlib.Data.List.Basic

/-!
# Files below a root

A file below a root is judged by the names that lead to it from there. So it gets the verdict that
its relative path gets without a root, whatever the root is called and wherever it lies, and it is
shown by its relative path.

**Main facts.** `under_append`: what is left of a path below its root. `skips_append`,
`shares_append` and `validate_append`: what is said of a file below a root is said of its relative
path.
-/

namespace Rulebook

open Frontmatter

variable (root : Path) (names : List String)

/-- A path below a root is taken by the names below. -/
theorem Path.under_append : (root.append names).under (some root) = ⟨.current, names⟩ := by
  rw [under, relativeTo?_append]
  rfl

/-- A file below a root is shown by the names below. -/
theorem Path.display_append :
    (root.append names).display (some root) = (⟨.current, names⟩ : Path).toString := by
  rw [display, under_append]

theorem foldersOf_append :
    foldersOf (some root) (root.append names) = foldersOf none ⟨.current, names⟩ := by
  rw [foldersOf, foldersOf, Path.under_append]
  rfl

variable {names}

/-- The name of a file below a root is the last one below. -/
private theorem Path.name_append (h : names ≠ []) :
    (root.append names).name = (⟨.current, names⟩ : Path).name := by
  rw [name, name, append, List.getLastD_eq_getLast?, List.getLastD_eq_getLast?]
  dsimp only
  rw [List.getLast?_append_of_ne_nil root.segments h]

namespace Settings

variable (s : Settings)

theorem skips_append (h : names ≠ []) :
    s.skips (some root) (root.append names) = s.skips none ⟨.current, names⟩ := by
  rw [skips, skips, Path.name_append root h, foldersOf_append]

variable (names) in
theorem shares_append :
    s.shares (some root) (root.append names) = s.shares none ⟨.current, names⟩ := by
  rw [shares, shares, foldersOf_append]

/-- What the verdict on a file below a root depends on. -/
theorem validate_append_eq_judge (h : names ≠ []) (text : String) :
    s.validate (some root) (root.append names) text =
      (s.judge (s.skips none ⟨.current, names⟩) (s.shares none ⟨.current, names⟩)
        (block? defaultDelimiter text)).map fun f => f.at (root.append names) := by
  rw [validate_eq_judge, skips_append root s h, shares_append root names s]

/-- **The verdict on a file below a root** is that on its relative path, whatever the root is. -/
theorem validate_append (h : names ≠ []) (text : String) :
    s.validate (some root) (root.append names) text =
      (s.validate none ⟨.current, names⟩ text).map fun d =>
        { d with path := root.append names } := by
  rw [validate_append_eq_judge root s h, validate_eq_judge, List.map_map]
  rfl

end Settings

end Rulebook
