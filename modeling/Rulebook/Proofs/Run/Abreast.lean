import Rulebook.Proofs.Run.Cut
import Rulebook.Proofs.Validation.Below
import Rulebook.Proofs.Walk.Alike

/-!
# Runs abreast

Two runs with the same settings, each on a tree and from a root of its own, go **abreast** when the
trees list alike and each file that the walks find reads alike: it comes to the same in both trees,
or both have a text for it, and it is skipped or the two texts have one block. Then the runs come to
the same, with names below the root in place of paths: this is their common account.

**Main facts.** `follow_abreast`: going through files that read alike, two runs have one account.
`run_abreast`: so have two whole runs.
-/

namespace Rulebook

open Frontmatter

/-! ### Accounts -/

namespace Run

/-- A problem with names below the root in place of its path. -/
inductive Trouble where
  | folder (names : List String) (fault : FileTree.Fault)
  | file (names : List String) (fault : FileTree.TextFault)

/-- Results with names below the root in place of paths. -/
structure Remarks where
  visited : List (List String) := []
  findings : List (List String × Finding) := []

/-- The outcome of a run with names below the root in place of paths. -/
structure Account where
  observed : List (List String × Bool)
  results : Except Trouble Remarks

variable (root : Path)

/-- The observation of a file below a root. -/
def observationAt (seen : List String × Bool) : Observation :=
  ⟨root.append seen.1, seen.2⟩

/-- The problem that trouble below a root is. -/
def Trouble.at : Trouble → Problem
  | folder names fault => Walk.folderProblem root (root.append names) fault
  | file names fault => .ruleFile (root.append names) (fault.message (root.append names))

/-- The results that remarks about files below a root are. -/
def Remarks.at (r : Remarks) : Results where
  visited := r.visited.map root.append
  diagnostics := r.findings.map fun f => f.2.at (root.append f.1)

/-- The outcome of a run from a root, by its account. -/
def Account.at (a : Account) : Outcome where
  observed := a.observed.map (observationAt root)
  results :=
    match a.results with
    | .ok r => .ok (r.at root)
    | .error trouble => .error (trouble.at root)

/-- Adds a file and what was found about it. -/
def Remarks.record (r : Remarks) (names : List String) (findings : List Finding) : Remarks where
  visited := r.visited ++ [names]
  findings := r.findings ++ findings.map fun f => (names, f)

private theorem Remarks.at_record (r : Remarks) (names : List String) (findings : List Finding) :
    (r.record names findings).at root =
      (r.at root).record (root.append names) (findings.map fun f => f.at (root.append names)) := by
  rw [record, Remarks.at, Remarks.at, Results.record]
  simp only [List.map_append, List.map_map, List.map_singleton]
  rfl

end Run

/-! ### Files that read alike -/

namespace Settings

variable (s : Settings)

/-- A file **reads alike** at two paths when reading it comes to the same in both trees, or when
both have a text for it, and it is skipped or the two texts have the same block. -/
def ReadsAlike (t t' : FileTree) (root p p' : Path) : Prop :=
  t.readText p = t'.readText p' ∨
    ∃ text text', t.readText p = .ok text ∧ t'.readText p' = .ok text' ∧
      (s.skips (some root) p = true ∨
        block? defaultDelimiter text = block? defaultDelimiter text')

variable {s} {t t' : FileTree} {root root' : Path} {names : List String}

private theorem observe_append (h : names ≠ []) :
    s.observe root (root.append names) =
      Run.observationAt root (names, s.skips none ⟨.current, names⟩) := by
  rw [observe, skips_append root s h]
  rfl

/-- A file that reads alike is unreadable in both trees for the same reason, or has the same
findings in both. -/
private theorem ReadsAlike.cases (hne : names ≠ [])
    (h : s.ReadsAlike t t' root (root.append names) (root'.append names)) :
    (∃ fault, t.readText (root.append names) = .error fault ∧
        t'.readText (root'.append names) = .error fault) ∨
      ∃ text text', ∃ findings : List Finding, t.readText (root.append names) = .ok text ∧
        t'.readText (root'.append names) = .ok text' ∧
        s.validate (some root) (root.append names) text =
          findings.map (fun f => f.at (root.append names)) ∧
        s.validate (some root') (root'.append names) text' =
          findings.map fun f => f.at (root'.append names) := by
  rcases h with hsame | ⟨text, text', htext, htext', hskips | hblock⟩
  · cases htext : t.readText (root.append names) with
    | error fault => exact Or.inl ⟨fault, rfl, hsame ▸ htext⟩
    | ok text =>
      exact Or.inr ⟨text, text, _, rfl, hsame ▸ htext, validate_append_eq_judge _ s hne text,
        validate_append_eq_judge _ s hne text⟩
  · have hskips' : s.skips (some root') (root'.append names) = true := by
      rwa [skips_append root' s hne, ← skips_append root s hne]
    exact Or.inr ⟨text, text', [], htext, htext', validate_of_skips hskips text,
      validate_of_skips hskips' text'⟩
  · refine Or.inr ⟨text, text', _, htext, htext', validate_append_eq_judge _ s hne text, ?_⟩
    rw [hblock]
    exact validate_append_eq_judge _ s hne text'

/-! ### Two runs -/

/-- **Going through files that read alike, two runs have one account.** -/
theorem follow_abreast {files : List (List String)} (hne : ∀ names ∈ files, names ≠ [])
    (hread : ∀ names ∈ files,
      s.ReadsAlike t t' root (root.append names) (root'.append names))
    (failure : Option (List String × FileTree.Fault)) (remarks : Run.Remarks)
    (observed : List (List String × Bool)) :
    ∃ a : Run.Account,
      s.follow t root (failure.map fun f => Walk.folderProblem root (root.append f.1) f.2)
          (files.map root.append) (remarks.at root) (observed.map (Run.observationAt root)) =
        a.at root ∧
      s.follow t' root' (failure.map fun f => Walk.folderProblem root' (root'.append f.1) f.2)
          (files.map root'.append) (remarks.at root') (observed.map (Run.observationAt root')) =
        a.at root' := by
  induction files generalizing remarks observed with
  | nil =>
    cases failure with
    | none => exact ⟨⟨observed, .ok remarks⟩, rfl, rfl⟩
    | some failure => exact ⟨⟨observed, .error (.folder failure.1 failure.2)⟩, rfl, rfl⟩
  | cons names files ih =>
    obtain ⟨hnames, hne⟩ := List.forall_mem_cons.mp hne
    obtain ⟨halike, hread⟩ := List.forall_mem_cons.mp hread
    rw [List.map_cons, List.map_cons, follow, follow]
    rcases halike.cases hnames with ⟨fault, htext, htext'⟩ |
      ⟨text, text', findings, htext, htext', hfound, hfound'⟩
    · rw [htext, htext']
      exact ⟨⟨observed, .error (.file names fault)⟩, rfl, rfl⟩
    · -- both runs go on with the same findings under the same names
      have hnext := ih hne hread (remarks.record names findings)
        (observed ++ [(names, s.skips none ⟨.current, names⟩)])
      rw [htext, htext']
      dsimp only
      rw [hfound, hfound', observe_append hnames, observe_append hnames]
      simp only [Run.Remarks.at_record, List.map_append, List.map_singleton] at hnext
      exact hnext

/-- **Two runs have one account** when their trees list alike and each file that the walks find
reads alike. -/
theorem run_abreast (h : t.ListsAlike t' root root')
    (hread : ∀ names, t.Shows root names →
      root.append names ∈ (Walk.trace t root s.extension).found →
        s.ReadsAlike t t' root (root.append names) (root'.append names)) :
    ∃ a : Run.Account, s.run t root = a.at root ∧ s.run t' root' = a.at root' := by
  obtain ⟨route, hshown, htrace, htrace'⟩ := Walk.exists_route h s.extension
  have hne : ∀ names ∈ route.found, names ≠ [] := by
    intro names hnames
    obtain ⟨folder, entries, name, -, -, -, rfl⟩ := hshown names hnames
    exact List.append_ne_nil_of_right_ne_nil _ (List.cons_ne_nil _ _)
  have halike : ∀ names ∈ route.found,
      s.ReadsAlike t t' root (root.append names) (root'.append names) := by
    intro names hnames
    refine hread names (hshown names hnames) ?_
    rw [htrace]
    exact List.mem_map_of_mem hnames
  obtain ⟨a, ha, ha'⟩ := follow_abreast hne halike route.failure {} []
  refine ⟨a, Eq.trans ?_ ha, Eq.trans ?_ ha'⟩
  · rw [run_eq_follow, htrace]
    rfl
  · rw [run_eq_follow, htrace']
    rfl

end Settings

end Rulebook
