import Rulebook.FileTree.Edit
import Rulebook.Proofs.FileTree.Placed
import Rulebook.Proofs.Run.Abreast

/-!
# The verdict on a folder, wherever it lies

A folder without links may lie below any root, be it relative, absolute or one that leads up and
down again, and be called like the folders that settings name. Runs on it from there have one
account, so they end alike; and since a file is shown by its path below the root, they are reported
in the same words.

**Main facts.** `Remarks.report_at`: a report does not tell the root. `verdict_is_placeless`: what
is said of files and folders does not depend on where they lie.
-/

namespace Rulebook

namespace Run

variable (root : Path)

/-! ### What is left of the root -/

/-- The names below the root that trouble is about. -/
def Trouble.names : Trouble → List String
  | folder names _ => names
  | file names _ => names

/-- What a problem is called, by the trouble. -/
def Trouble.kind : Trouble → Problem.Kind
  | folder names _ => if names = [] then .rootFolder else .folder
  | file _ _ => .ruleFile

private theorem Trouble.path_at (trouble : Trouble) :
    (trouble.at root).path = root.append trouble.names := by
  cases trouble with
  | folder names fault =>
    rw [Trouble.at, Walk.folderProblem]
    split <;> rfl
  | file names fault => rfl

private theorem Trouble.kind_at (trouble : Trouble) : (trouble.at root).kind = trouble.kind := by
  cases trouble with
  | folder names fault =>
    have hroot : root.append names = root ↔ names = [] := by
      constructor
      · exact fun h => List.append_right_eq_self.mp (congrArg Path.segments h)
      · rintro rfl
        exact root.append_nil
    simp only [Trouble.at, Walk.folderProblem, hroot, kind]
    split <;> rfl
  | file names fault => rfl

private theorem Remarks.summary_at (r : Remarks) : (r.at root).summary = (r.at {}).summary := by
  simp only [Results.summary, Results.count, Remarks.at, List.length_map, List.countP_map]
  rfl

/-- **A report does not tell the root**: it is the one without a root. -/
theorem Remarks.report_at (r : Remarks) :
    (r.at root).report (some root) = (r.at {}).report none := by
  have hline : ∀ (names : List String) (f : Finding),
      (f.at (root.append names)).line (some root) = (f.at ⟨.current, names⟩).line none := by
    intro names f
    rw [Diagnostic.line, Diagnostic.line, Finding.at, Finding.at]
    dsimp only
    rw [Path.display_append]
    rfl
  rw [Results.report, Results.report, r.summary_at root, Remarks.at, Remarks.at]
  dsimp only
  rw [List.map_map, List.map_map]
  exact congrArg (· ++ _) (List.map_congr_left fun f _ => hline f.1 f.2)

end Run

namespace Settings

/-- **The verdict on a folder does not depend on where it lies.** Below any root, a file is skipped,
lies in the shared area, gets findings and is shown just as its relative path is without a root. So
two trees that hold one folder without links, each at a root of its own, are judged alike from
there: both runs observe the same names below the root, and fail with problems of one kind at the
same names, or visit the same names, report the same lines and exit with the same code. -/
theorem verdict_is_placeless (s : Settings) :
    (∀ (root : Path) (names : List String), names ≠ [] → ∀ text,
      s.skips (some root) (root.append names) = s.skips none ⟨.current, names⟩ ∧
      s.shares (some root) (root.append names) = s.shares none ⟨.current, names⟩ ∧
      (s.validate (some root) (root.append names) text).map (fun d => (d.severity, d.message)) =
        (s.validate none ⟨.current, names⟩ text).map (fun d => (d.severity, d.message)) ∧
      (root.append names).display (some root) = (⟨.current, names⟩ : Path).toString) ∧
    ∀ (e : Entry) (refused : List Location), e.LinkFree →
      ∀ t root t' root', t.Holds root e refused → t'.Holds root' e refused →
        ∃ seen : List (List String × Bool),
          (s.run t root).observed = seen.map (fun o => ⟨root.append o.1, o.2⟩) ∧
          (s.run t' root').observed = seen.map (fun o => ⟨root'.append o.1, o.2⟩) ∧
          ((∃ names problem problem', (s.run t root).results = .error problem ∧
              (s.run t' root').results = .error problem' ∧
              problem.path = root.append names ∧ problem'.path = root'.append names ∧
              problem.kind = problem'.kind) ∨
            ∃ (visited : List (List String)) (r r' : Results), (s.run t root).results = .ok r ∧
              (s.run t' root').results = .ok r' ∧
              r.visited = visited.map root.append ∧ r'.visited = visited.map root'.append ∧
              r.report (some root) = r'.report (some root') ∧
              r.summary.exitCode = r'.summary.exitCode) := by
  refine ⟨?_, ?_⟩
  · intro root names hne text
    refine ⟨skips_append root s hne, shares_append root names s, ?_, Path.display_append root names⟩
    rw [validate_append root s hne, List.map_map]
    rfl
  · intro e refused he t root t' root' h h'
    obtain ⟨⟨observed, results⟩, ha, ha'⟩ := run_abreast (s := s) (h.listsAlike h' he)
      fun names hshown _ => Or.inl (h.readText_eq h' he hshown)
    rw [ha, ha']
    refine ⟨observed, rfl, rfl, ?_⟩
    rcases results with trouble | remarks
    · refine Or.inl ⟨trouble.names, _, _, rfl, rfl, trouble.path_at root, trouble.path_at root', ?_⟩
      rw [trouble.kind_at, trouble.kind_at]
    · refine Or.inr ⟨remarks.visited, _, _, rfl, rfl, rfl, rfl, ?_, ?_⟩
      · rw [remarks.report_at, remarks.report_at]
      · rw [remarks.summary_at, remarks.summary_at root']

/-- One file without frontmatter, below a relative root and below one that is called like the folder
of skills. -/
theorem verdict_is_placeless_of_one_file :
    let t := ({} : FileTree).putFile ⟨.current, ["configs", "d", "a.md"]⟩ []
    let t' := ({} : FileTree).putFile ⟨.top, ["skills", "rules", "d", "a.md"]⟩ []
    let root : Path := ⟨.current, ["configs"]⟩
    let root' : Path := ⟨.top, ["skills", "..", "skills", "rules"]⟩
    ∃ r r', (({} : Settings).run t root).results = .ok r ∧
      (({} : Settings).run t' root').results = .ok r' ∧
      r.diagnostics.length = 1 ∧ r.report (some root) = r'.report (some root') := by
  intro t t' root root'
  have hfree : (Entry.folder [("d", .folder [("a.md", .file [])])]).LinkFree :=
    .folder (List.forall_mem_singleton.mpr (.folder (List.forall_mem_singleton.mpr (.file []))))
  have hholds : t.Holds root (.folder [("d", .folder [("a.md", .file [])])]) [] :=
    ⟨["configs"], by rfl, fun _ _ _ => iff_of_false List.not_mem_nil List.not_mem_nil,
      fun _ _ _ => iff_of_false List.not_mem_nil List.not_mem_nil⟩
  have hholds' : t'.Holds root' (.folder [("d", .folder [("a.md", .file [])])]) [] :=
    ⟨["skills", "rules"], by rfl, fun _ _ _ => iff_of_false List.not_mem_nil List.not_mem_nil,
      fun _ _ _ => iff_of_false List.not_mem_nil List.not_mem_nil⟩
  have hcount : (({} : Settings).run t root).results.toOption.map (fun r => r.diagnostics.length) =
      some 1 := by
    decide +kernel
  obtain ⟨-, -, -, ⟨-, problem, -, hproblem, -⟩ | ⟨-, r, r', hr, hr', -, -, hreport, -⟩⟩ :=
    (verdict_is_placeless {}).2 _ [] hfree t root t' root' hholds hholds'
  · rw [hproblem] at hcount
    exact absurd hcount (Option.some_ne_none 1).symm
  · rw [hr] at hcount
    exact ⟨r, r', hr, hr', Option.some.inj hcount, hreport⟩

end Settings

end Rulebook
