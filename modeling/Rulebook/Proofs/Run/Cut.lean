import Rulebook.Proofs.Walk.Preorder
import Rulebook.Run

/-!
# A run is cut at the first problem

A run reads and validates each file as soon as its walk finds it, so a file that cannot be read and
a folder that cannot be listed compete to end it. `follow` goes through the files of a finished
trace instead, one after the other. The two come to the same outcome, and the outcome of `follow` is
read off the trace: everything before the first problem counts, and nothing after it does.

**Main facts.** `finishWithin_eq_follow`: a run is what follows from the trace of its walk.
`follow_append`: files that can be read add what they have, and the rest goes on from there.
`run_is_cut_at_first_problem`: the outcome of a run, by the first problem of its trace.
-/

namespace Rulebook

namespace Settings

variable (s : Settings) (t : FileTree) (root : Path)

/-- What a run observes of a file that it has read. -/
def observe (path : Path) : Observation :=
  ⟨path, s.skips (some root) path⟩

/-- What is wrong with a file of a tree, where it can be read. -/
def diagnose (path : Path) : List Diagnostic :=
  match t.readText path with
  | .ok text => s.validate (some root) path text
  | .error _ => []

/-- The outcome of a run that is to go through some files yet and to end with `failure`. -/
def follow (failure : Option Problem) :
    List Path → Results → List Observation → Run.Outcome
  | [], results, observed =>
    match failure with
    | none => ⟨observed, .ok results⟩
    | some problem => ⟨observed, .error problem⟩
  | path :: rest, results, observed =>
    match t.readText path with
    | .ok text =>
      follow failure rest (results.record path (s.validate (some root) path text))
        (observed ++ [s.observe root path])
    | .error fault => ⟨observed, .error (.ruleFile path (fault.message path))⟩

end Settings

/-! ### From runs to traces -/

/-- **A run is what follows from the trace of its walk.** -/
theorem Run.finishWithin_eq_follow (t : FileTree) (bound : Nat) (r : Run) :
    r.finishWithin t bound =
      r.settings.follow t r.walk.root (r.walk.traceWithin t bound).failure
        (r.walk.traceWithin t bound).found r.results r.observed := by
  induction bound generalizing r with
  | zero => rfl
  | succ bound ih =>
    -- the root stays the same, so that every file is judged by its path below the same folder
    have hroot := (Walk.move_step t r.walk).root_eq
    rw [finishWithin, step, Walk.traceWithin]
    generalize r.walk.step t = result at hroot ⊢
    obtain ⟨event, w'⟩ := result
    cases event with
    | moved =>
      have h := ih { r with walk := w' }
      rwa [hroot] at h
    | ended => rfl
    | failed problem => rfl
    | found path =>
      dsimp only
      rw [Settings.follow]
      cases t.readText path with
      | ok text =>
        refine (ih ({ r with walk := w' }.visit path text)).trans ?_
        rw [visit, ← hroot]
        rfl
      | error fault => rfl

/-- A run is what follows from the trace of its walk, from the start. -/
theorem Settings.run_eq_follow (s : Settings) (t : FileTree) (root : Path) :
    s.run t root =
      s.follow t root (Walk.trace t root s.extension).failure
        (Walk.trace t root s.extension).found {} [] :=
  Run.finishWithin_eq_follow t (Walk.bound t) (Run.start s root)

/-! ### Files that can be read -/

namespace Settings

variable {s : Settings} {t : FileTree} {root path : Path}

theorem validate_of_skips (h : s.skips (some root) path = true) (text : String) :
    s.validate (some root) path text = [] :=
  if_pos h

/-- What is found about a file bears its path. -/
private theorem path_of_mem_validate {text : String} {d : Diagnostic}
    (h : d ∈ s.validate (some root) path text) : d.path = path := by
  rw [validate] at h
  split at h
  · exact absurd h List.not_mem_nil
  split at h
  · split at h
    · exact absurd h List.not_mem_nil
    · exact congrArg Diagnostic.path (List.mem_singleton.mp h)
  · obtain ⟨f, -, rfl⟩ := List.mem_map.mp h
    rfl

private theorem diagnose_of_skips (h : s.skips (some root) path = true) :
    s.diagnose t root path = [] := by
  rw [diagnose]
  split
  · exact validate_of_skips h _
  · rfl

private theorem path_of_mem_diagnose {d : Diagnostic} (h : d ∈ s.diagnose t root path) :
    d.path = path := by
  rw [diagnose] at h
  split at h
  · exact path_of_mem_validate h
  · exact absurd h List.not_mem_nil

/-- **Files that can be read** add what they have, and the rest goes on from there. -/
theorem follow_append (s : Settings) (root : Path) {before : List Path}
    (h : ∀ p ∈ before, ∃ text, t.readText p = .ok text) (failure : Option Problem)
    (rest : List Path) (results : Results) (observed : List Observation) :
    s.follow t root failure (before ++ rest) results observed =
      s.follow t root failure rest
        ⟨results.visited ++ before, results.diagnostics ++ before.flatMap (s.diagnose t root)⟩
        (observed ++ before.map (s.observe root)) := by
  induction before generalizing results observed with
  | nil => simp
  | cons p before ih =>
    obtain ⟨⟨text, htext⟩, hbefore⟩ := List.forall_mem_cons.mp h
    have hdiagnose : s.diagnose t root p = s.validate (some root) p text := by
      rw [diagnose, htext]
    rw [List.cons_append, follow, htext]
    dsimp only
    rw [ih hbefore, Results.record, List.flatMap_cons, List.map_cons, hdiagnose]
    simp only [List.append_assoc, List.singleton_append]

end Settings

/-! ### The first problem -/

/-- **A run is cut at the first problem.** If the trace of its walk has no failure and every file in
it can be read, the run visits and observes these files in order, each once, and its diagnostics are
those of the files in order; so a diagnostic is about a file that was visited, and not about one
that was skipped. If a file cannot be read, skipped or not, the run ends with the problem of the
first such file and has observed the files before it. If all files can be read and the trace has a
failure, the run ends with this one, which is that of a folder, and has observed all files of the
trace. -/
theorem run_is_cut_at_first_problem (s : Settings) (t : FileTree) (root : Path) :
    let trace := Walk.trace t root s.extension
    let outcome := s.run t root
    trace.found.Nodup ∧
      (trace.failure = none → (∀ p ∈ trace.found, ∃ text, t.readText p = .ok text) →
        ∃ results,
          outcome = ⟨trace.found.map (s.observe root), .ok results⟩ ∧
          results.visited = trace.found ∧
          results.diagnostics = trace.found.flatMap (s.diagnose t root) ∧
          (∀ d ∈ results.diagnostics, d.path ∈ results.visited) ∧
          (∀ o ∈ outcome.observed, o.skipped = true →
            ∀ d ∈ results.diagnostics, d.path ≠ o.path) ∧
          results.summary.filesChecked = outcome.observed.length) ∧
      (∀ before p after fault, trace.found = before ++ p :: after →
        (∀ q ∈ before, ∃ text, t.readText q = .ok text) → t.readText p = .error fault →
          outcome = ⟨before.map (s.observe root), .error (.ruleFile p (fault.message p))⟩) ∧
      ∀ problem, trace.failure = some problem →
        (∀ p ∈ trace.found, ∃ text, t.readText p = .ok text) →
          outcome = ⟨trace.found.map (s.observe root), .error problem⟩ ∧
          ∃ folder fault, t.list folder = .error fault ∧
            problem =
              if folder = root then .rootFolder folder (fault.message folder)
              else .folder folder (fault.message folder) Problem.folderNoun := by
  intro trace outcome
  have hrun : outcome = s.follow t root trace.failure trace.found {} [] :=
    Run.finishWithin_eq_follow t (Walk.bound t) (Run.start s root)
  refine ⟨Walk.nodup_found_trace _ _ _, ?_, ?_, ?_⟩
  · intro hfailure hread
    have hfollow := Settings.follow_append s root hread trace.failure [] {} []
    rw [List.append_nil] at hfollow
    have hout : outcome = ⟨trace.found.map (s.observe root),
        .ok ⟨trace.found, trace.found.flatMap (s.diagnose t root)⟩⟩ := by
      rw [hrun, hfollow, hfailure]
      rfl
    refine ⟨_, hout, rfl, rfl, ?_, ?_, ?_⟩
    · intro d hd
      obtain ⟨p, hp, hd⟩ := List.mem_flatMap.mp hd
      exact Settings.path_of_mem_diagnose hd ▸ hp
    · -- a diagnostic tells which file it came from, and a file that is skipped has none
      intro o ho hskipped d hd hpath
      rw [hout] at ho
      obtain ⟨p, hp, rfl⟩ := List.mem_map.mp ho
      obtain ⟨q, hq, hd⟩ := List.mem_flatMap.mp hd
      obtain rfl : q = p := (Settings.path_of_mem_diagnose hd).symm.trans hpath
      rw [Settings.diagnose_of_skips hskipped] at hd
      exact absurd hd List.not_mem_nil
    · rw [hout]
      exact congrArg Int.ofNat (List.length_map _).symm
  · intro before p after fault hfound hread hp
    rw [hrun, hfound, Settings.follow_append s root hread, Settings.follow, hp]
    rfl
  · intro problem hfailure hread
    have hfollow := Settings.follow_append s root hread trace.failure [] {} []
    rw [List.append_nil] at hfollow
    refine ⟨?_, Walk.exists_list_error_of_failure hfailure⟩
    rw [hrun, hfollow, hfailure]
    rfl

end Rulebook
