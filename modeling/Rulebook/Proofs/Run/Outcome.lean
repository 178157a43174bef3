import Rulebook.Proofs.Run.Cut

/-!
# What a run comes to

A run stops at its first problem, so what it comes to can be told from its trace without going
through it file by file. It has observed the files ahead of the first one that cannot be read. If
there is such a file, or else if the trace has a failure, this is its problem; otherwise its results
are the files of the trace with all that is wrong with them.

Two runs are then compared part by part: their traces, what can be read, what is observed of a file
and what is wrong with it.

**Main fact.** `run_eq`: what a run comes to, by its trace.
-/

namespace Rulebook

namespace FileTree

variable (t : FileTree)

/-- The problem of a file that cannot be read. -/
def fileProblem? (p : Path) : Option Problem :=
  match t.readText p with
  | .ok _ => none
  | .error fault => some (.ruleFile p (fault.message p))

/-- The files ahead of the first one that cannot be read. -/
def readable (files : List Path) : List Path :=
  files.takeWhile fun p => (t.fileProblem? p).isNone

/-- The problem that a run along a trace ends with: that of the first file that cannot be read, or
else the failure of the trace. -/
def problemAlong? (trace : Walk.Trace) : Option Problem :=
  (trace.found.findSome? t.fileProblem?).or trace.failure

variable {t}

private theorem fileProblem?_of_ok {p : Path} {text : String} (h : t.readText p = .ok text) :
    t.fileProblem? p = none := by
  rw [fileProblem?, h]

theorem fileProblem?_of_error {p : Path} {fault : TextFault} (h : t.readText p = .error fault) :
    t.fileProblem? p = some (.ruleFile p (fault.message p)) := by
  rw [fileProblem?, h]

/-- The problem of a file is that it cannot be read. -/
theorem exists_fault_of_fileProblem? {p : Path} {problem : Problem}
    (h : t.fileProblem? p = some problem) :
    ∃ fault, t.readText p = .error fault ∧ problem = .ruleFile p (fault.message p) := by
  cases hread : t.readText p with
  | ok text =>
    rw [fileProblem?_of_ok hread] at h
    exact absurd h (Option.some_ne_none problem).symm
  | error fault =>
    rw [fileProblem?_of_error hread] at h
    exact ⟨fault, rfl, (Option.some.inj h).symm⟩

end FileTree

/-- Results, unless there is a problem. -/
def Results.unless (r : Results) (problem? : Option Problem) : Except Problem Results :=
  problem?.elim (.ok r) .error

theorem Results.unless_eq_error {r : Results} {problem? : Option Problem} {problem : Problem} :
    r.unless problem? = .error problem ↔ problem? = some problem := by
  cases problem? <;> simp [Results.unless]

namespace Settings

variable (s : Settings) (t : FileTree) (root : Path)

/-- What is wrong with the files of a list, one after the other. -/
def diagnoseAll (files : List Path) : List Diagnostic :=
  files.flatMap (s.diagnose t root)

private theorem follow_eq (failure : Option Problem) (files : List Path) (results : Results)
    (observed : List Observation) :
    s.follow t root failure files results observed =
      ⟨observed ++ (t.readable files).map (s.observe root),
        Results.unless ⟨results.visited ++ files, results.diagnostics ++ s.diagnoseAll t root files⟩
          (t.problemAlong? ⟨files, failure⟩)⟩ := by
  induction files generalizing results observed with
  | nil =>
    cases failure <;> simp [follow, FileTree.readable, FileTree.problemAlong?, diagnoseAll,
      Results.unless]
  | cons p files ih =>
    cases hread : t.readText p with
    | ok text =>
      have hproblem := FileTree.fileProblem?_of_ok hread
      have hdiagnose : s.diagnose t root p = s.validate (some root) p text := by
        rw [diagnose, hread]
      rw [follow, hread]
      dsimp only
      rw [ih]
      simp [FileTree.readable, FileTree.problemAlong?, diagnoseAll, hproblem, hdiagnose,
        Results.record]
    | error fault =>
      have hproblem := FileTree.fileProblem?_of_error hread
      rw [follow, hread]
      simp [FileTree.readable, FileTree.problemAlong?, hproblem, Results.unless]

/-- **What a run comes to**, by its trace. -/
theorem run_eq :
    s.run t root =
      let trace := Walk.trace t root s.extension
      ⟨(t.readable trace.found).map (s.observe root),
        Results.unless ⟨trace.found, s.diagnoseAll t root trace.found⟩
          (t.problemAlong? trace)⟩ := by
  rw [run_eq_follow, follow_eq]
  rfl

end Settings

end Rulebook
