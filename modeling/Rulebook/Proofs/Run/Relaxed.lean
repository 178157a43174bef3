import Rulebook.FileTree.Edit
import Rulebook.Proofs.Report.Counts
import Rulebook.Proofs.Run.Outcome
import Rulebook.Proofs.Validation.Relaxed

/-!
# Runs with relaxed settings

What the walk finds, what can be read and where the walk fails is the same for all settings with one
extension. So two runs of one tree, the second one with relaxed settings, end alike: with the same
problem, or with results about the same files, and then the second run has fewer diagnostics.

**Main fact.** `relaxed_run_has_fewer_diagnostics`: two runs of one tree, the second one with
relaxed settings.
-/

namespace Rulebook

namespace Settings

variable {s s' : Settings}

/-- Relaxed settings find fewer things wrong with the files of a tree. -/
private theorem Relaxes.diagnoseAll_sublist (h : s'.Relaxes s) (t : FileTree) (root : Path)
    (files : List Path) :
    (s'.diagnoseAll t root files).Sublist (s.diagnoseAll t root files) := by
  refine List.Sublist.flatMap_right _ fun p _ => ?_
  rw [diagnose, diagnose]
  cases t.readText p with
  | ok text => exact h.validate_sublist (some root) p text
  | error fault => exact List.Sublist.refl _

private theorem map_path_observe (s : Settings) (root : Path) (files : List Path) :
    (files.map (s.observe root)).map Observation.path = files := by
  rw [List.map_map]
  exact List.map_id files

/-- **Relaxed settings have fewer diagnostics.** Run once with some settings and once with relaxed
ones, a tree gives the same problem both times, after the same files have been observed, or results
about the same files both times: then the diagnostics of the relaxed run are among the others, in
the same order, and its exit code is no greater. Where nothing but being strict is relaxed, what is
found about a file comes first in what strict settings find about it. -/
theorem relaxed_run_has_fewer_diagnostics (h : s'.Relaxes s) (t : FileTree) (root : Path) :
    ((∃ problem, (s.run t root).results = .error problem ∧
        (s'.run t root).results = .error problem ∧
        (s'.run t root).observed.map Observation.path =
          (s.run t root).observed.map Observation.path) ∨
      ∃ r r', (s.run t root).results = .ok r ∧ (s'.run t root).results = .ok r' ∧
        r'.visited = r.visited ∧ r'.diagnostics.Sublist r.diagnostics ∧
        r'.summary.exitCode ≤ r.summary.exitCode) ∧
    ∀ (base : Option Path) (path : Path) (text : String),
      validate { s with strict := false } base path text <+:
        validate { s with strict := true } base path text := by
  refine ⟨?_, s.validate_lenient_prefix⟩
  rw [run_eq, run_eq, h.extension_eq]
  dsimp only
  generalize Walk.trace t root s.extension = trace
  rcases t.problemAlong? trace with _ | problem
  · have hsub := h.diagnoseAll_sublist t root trace.found
    exact Or.inr ⟨_, _, rfl, rfl, rfl, hsub, Results.exitCode_le_of_sublist hsub⟩
  · refine Or.inl ⟨problem, rfl, rfl, ?_⟩
    rw [map_path_observe, map_path_observe]

/-- Two files, of which the relaxed run skips one, and knows the key of the other. -/
theorem relaxed_run_of_two_files :
    let t := (({} : FileTree).putFile ⟨.current, ["configs", "a.md"]⟩
      [45, 45, 45, 10, 107, 58, 32, 118, 10, 45, 45, 45]).putFile ⟨.current, ["configs", "b.md"]⟩ []
    let s : Settings := { strict := true, knownKeys := [] }
    let s' : Settings := { s with exemptFilenames := ["CLAUDE.md", "b.md"], knownKeys := ["k"] }
    s'.Relaxes s ∧
      ∃ r r', (s.run t ⟨.current, ["configs"]⟩).results = .ok r ∧
        (s'.run t ⟨.current, ["configs"]⟩).results = .ok r' ∧
        r'.visited = r.visited ∧ r'.diagnostics.Sublist r.diagnostics ∧
        r.diagnostics.length = 4 ∧ r'.diagnostics.length = 2 := by
  intro t s s'
  have h : s'.Relaxes s := by constructor <;> decide
  have hcounts :
      (s.run t ⟨.current, ["configs"]⟩).results.toOption.map (fun r => r.diagnostics.length) =
          some 4 ∧
        (s'.run t ⟨.current, ["configs"]⟩).results.toOption.map (fun r => r.diagnostics.length) =
          some 2 := by
    decide +kernel
  refine ⟨h, ?_⟩
  rcases (relaxed_run_has_fewer_diagnostics h t ⟨.current, ["configs"]⟩).1 with
    ⟨problem, hproblem, -⟩ | ⟨r, r', hr, hr', hvisited, hsub, -⟩
  · rw [hproblem] at hcounts
    exact absurd hcounts.1 (Option.some_ne_none 4).symm
  · rw [hr, hr'] at hcounts
    exact ⟨r, r', hr, hr', hvisited, hsub, Option.some.inj hcounts.1, Option.some.inj hcounts.2⟩

end Settings

end Rulebook
