import Rulebook.CommandLine.Lint
import Rulebook.FileTree.Edit
import Rulebook.Proofs.Settings.Legible

/-!
# How a command ends

A command that ends says with its exit code how it went. This module says which commands end: all
but those that read a settings file which is not legible, and those to which the settings file or
the root is refused. A problem with the settings, with a folder or with a rule file ends the command
with code 2, and the second output says what the problem is. All of this holds on every host, for
every reader of settings and whatever the known emoji are.

**Main fact.** `run_ends_iff_unhindered`: a command ends with an exit code just when its task, if it
comes to one, is unhindered.
-/

namespace Rulebook.CommandLine

open Text Yaml

/-! ### Messages -/

private theorem page_singleton (line : String) : page [line] = line ++ "\n" := by
  rw [page, List.map_singleton, String.join, List.foldl_cons, List.foldl_nil, String.empty_append]

/-- What is written about a problem that ends a command. -/
theorem Output.stderr_fatal (p : Problem) (stdout : String) :
    (Output.fatal p stdout).stderr =
      String.ofList (dropEscapes ("Error: Fatal: " ++ p.describe ++ "\n").toList) := by
  have htext : page ([] ++ ["Error: " ++ ("Fatal: " ++ p.describe)]) =
      "Error: Fatal: " ++ p.describe ++ "\n" := by
    rw [List.nil_append, page_singleton, ← String.append_assoc]
    rfl
  exact congrArg (fun text : String => String.ofList (dropEscapes text.toList)) htext

/-! ### Carrying out a task -/

section

variable [EmojiTable]

namespace Task

/-- A run over given settings ends with one of three exit codes. -/
private theorem exitCode_outputWith_le (t : FileTree) (task : Task) (s : Settings) :
    (task.outputWith t s).exitCode ≤ 2 := by
  rw [outputWith]
  split
  · next r _ =>
    have hcode : r.summary.exitCode ≤ 1 := by
      rw [Summary.exitCode]
      split <;> decide
    exact Nat.le_succ_of_le hcode
  · exact Nat.le_refl 2

private theorem outputWith_of_error (t : FileTree) (task : Task) {s : Settings} {p : Problem}
    (hrun : ((task.adjust s).run t task.rootPath).results = .error p) :
    ∃ stdout, task.outputWith t s = .fatal p stdout := by
  rw [outputWith, hrun]
  exact ⟨_, rfl⟩

variable {h : Host} {task : Task} {reader : Settings.Reader}

private theorem start_of_refused {s : Settings} {refusal : Host.Refusal}
    (hrefused : h.refusalAt? task.rootPath = some refusal) :
    task.start h s = .error (.refused task.rootPath refusal task.header) := by
  rw [start, hrefused]

theorem start_of_not_refused {s : Settings} (hroot : h.refusalAt? task.rootPath = none) :
    task.start h s = .ok (task.outputWith h.tree s) := by
  rw [start, hroot]

/-! Each stage of a task, by what the stages in front of it come to. -/

private theorem perform_of_refused {refusal : Host.Refusal}
    (hrefused : h.refusalAt? task.configPath = some refusal) :
    task.perform h reader = .error (.refused task.configPath refusal) := by
  rw [perform, hrefused]

theorem perform_of_missing (hconfig : h.refusalAt? task.configPath = none) {path : Path}
    (hmissing : task.missingConfig? h.tree = some path) :
    task.perform h reader = .ok (.failure ("Config file not found: " ++ path.toString)) := by
  rw [perform, hconfig]
  dsimp only
  rw [hmissing]

section

variable (hconfig : h.refusalAt? task.configPath = none)
  (hmissing : task.missingConfig? h.tree = none)

include hconfig hmissing

theorem perform_of_problem {p : Problem}
    (hload : Settings.load h.tree (some task.configPath) {} reader = .error (.problem p)) :
    task.perform h reader = .ok (.fatal p) := by
  rw [perform, hconfig]
  dsimp only
  rw [hmissing]
  dsimp only
  rw [hload]

theorem perform_of_failure {failure : Settings.LoadFailure} (hne : ∀ p, failure ≠ .problem p)
    (hload : Settings.load h.tree (some task.configPath) {} reader = .error failure) :
    task.perform h reader = .error (.settings failure) := by
  rw [perform, hconfig]
  dsimp only
  rw [hmissing]
  dsimp only
  rw [hload]
  cases failure with
  | problem p => exact absurd rfl (hne p)
  | _ => rfl

theorem perform_of_load {s : Settings}
    (hload : Settings.load h.tree (some task.configPath) {} reader = .ok s) :
    task.perform h reader = task.start h s := by
  rw [perform, hconfig]
  dsimp only
  rw [hmissing]
  dsimp only
  rw [hload]

end

/-- What a task **breaks down** with: its settings file is refused, cannot be loaded for a reason
that is no problem, or is loaded and then the root is refused. -/
inductive BreaksDown (h : Host) (task : Task) (reader : Settings.Reader) : Breakdown → Prop
  | config {refusal : Host.Refusal} (hrefused : h.refusalAt? task.configPath = some refusal) :
    BreaksDown h task reader (.refused task.configPath refusal)
  | settings {failure : Settings.LoadFailure} (hconfig : h.refusalAt? task.configPath = none)
    (hmissing : task.missingConfig? h.tree = none)
    (hload : Settings.load h.tree (some task.configPath) {} reader = .error failure)
    (hne : ∀ p, failure ≠ .problem p) : BreaksDown h task reader (.settings failure)
  | root {s : Settings} {refusal : Host.Refusal} (hconfig : h.refusalAt? task.configPath = none)
    (hmissing : task.missingConfig? h.tree = none)
    (hload : Settings.load h.tree (some task.configPath) {} reader = .ok s)
    (hrefused : h.refusalAt? task.rootPath = some refusal) :
    BreaksDown h task reader (.refused task.rootPath refusal task.header)

private theorem BreaksDown.perform_eq {b : Breakdown} (hb : task.BreaksDown h reader b) :
    task.perform h reader = .error b := by
  cases hb with
  | config hrefused => exact perform_of_refused hrefused
  | settings hconfig hmissing hload hne => exact perform_of_failure hconfig hmissing hne hload
  | root hconfig hmissing hload hrefused =>
    exact (perform_of_load hconfig hmissing hload).trans (start_of_refused hrefused)

/-- A task that does not break down ends with an output, of which the exit code is at most 2. -/
private theorem perform_cases (h : Host) (task : Task) (reader : Settings.Reader) :
    (∃ output, task.perform h reader = .ok output ∧ output.exitCode ≤ 2) ∨
      ∃ b, task.BreaksDown h reader b := by
  cases hconfig : h.refusalAt? task.configPath with
  | some refusal => exact .inr ⟨_, .config hconfig⟩
  | none =>
    cases hmissing : task.missingConfig? h.tree with
    | some path => exact .inl ⟨_, perform_of_missing hconfig hmissing, Nat.le_refl 2⟩
    | none =>
      cases hload : Settings.load h.tree (some task.configPath) {} reader with
      | error failure =>
        by_cases hproblem : ∃ p, failure = .problem p
        · obtain ⟨p, rfl⟩ := hproblem
          exact .inl ⟨_, perform_of_problem hconfig hmissing hload, Nat.le_refl 2⟩
        · have hne : ∀ p, failure ≠ .problem p := fun p hp => hproblem ⟨p, hp⟩
          exact .inr ⟨_, .settings hconfig hmissing hload hne⟩
      | ok s =>
        cases hroot : h.refusalAt? task.rootPath with
        | some refusal => exact .inr ⟨_, .root hconfig hmissing hload hroot⟩
        | none =>
          refine .inl ⟨_, ?_, exitCode_outputWith_le h.tree task s⟩
          rw [perform_of_load hconfig hmissing hload, start_of_not_refused hroot]

/-! ### Tasks that nothing hinders -/

/-- A task is **unhindered** when its settings file is not refused and is legible, and its root is
not refused where the settings can be loaded. -/
structure Unhindered (h : Host) (task : Task) (reader : Settings.Reader) : Prop where
  config : h.refusalAt? task.configPath = none
  legible : Settings.Legible h.tree task.configPath reader
  root : task.missingConfig? h.tree = none →
    ∀ s, Settings.load h.tree (some task.configPath) {} reader = .ok s →
      h.refusalAt? task.rootPath = none

omit [EmojiTable] in
/-- The settings file that a task names but that is not there, cannot be read. -/
private theorem legible_of_missing {t : FileTree} {path : Path}
    (hmissing : task.missingConfig? t = some path) :
    Settings.Legible t task.configPath reader := by
  intro bytes hbytes
  have hexists := Settings.exists?_of_readBytes hbytes
  rw [missingConfig?] at hmissing
  rw [configPath] at hexists
  cases hconfig : task.config with
  | none =>
    rw [hconfig] at hmissing
    cases hmissing
  | some value =>
    rw [hconfig] at hmissing hexists
    dsimp only at hmissing hexists
    rw [if_pos hexists] at hmissing
    cases hmissing

/-- Just the tasks that are not unhindered break down. -/
private theorem unhindered_iff : task.Unhindered h reader ↔ ∀ b, ¬ task.BreaksDown h reader b := by
  constructor
  · rintro ⟨hconfig, hlegible, hroot⟩ b hb
    cases hb with
    | config hrefused =>
      rw [hconfig] at hrefused
      cases hrefused
    | settings _ hmissing hload hne =>
      obtain ⟨p, hp⟩ := (Settings.legible_iff_load_error {}).mp hlegible _ hload
      exact hne p hp
    | root _ hmissing hload hrefused =>
      rw [hroot hmissing _ hload] at hrefused
      cases hrefused
  · intro hnone
    have hconfig : h.refusalAt? task.configPath = none :=
      Option.eq_none_iff_forall_ne_some.mpr fun refusal hrefused => hnone _ (.config hrefused)
    refine ⟨hconfig, ?_, fun hmissing s hload => ?_⟩
    · cases hmissing : task.missingConfig? h.tree with
      | some path => exact legible_of_missing hmissing
      | none =>
        -- a failure to load that is no problem would be a breakdown
        refine (Settings.legible_iff_load_error {}).mpr fun failure hload => ?_
        refine Classical.byContradiction fun hproblem => ?_
        exact hnone _ (.settings hconfig hmissing hload fun p hp => hproblem ⟨p, hp⟩)
    · exact Option.eq_none_iff_forall_ne_some.mpr fun refusal hrefused =>
        hnone _ (.root hconfig hmissing hload hrefused)

end Task

/-! ### Carrying out a command -/

variable {h : Host} {args : List String} {reader : Settings.Reader}

theorem run_of_lint {task : Task} (htask : Request.read h args = .ok (.lint task)) :
    run h args reader = task.perform h reader := by
  rw [run, htask]

/-- A command that does not come to a task ends. -/
private theorem run_of_no_task (reader : Settings.Reader)
    (hnone : ∀ task, Request.read h args ≠ .ok (.lint task)) :
    ∃ output, run h args reader = .ok output ∧ output.exitCode ≤ 2 := by
  rw [run]
  split
  · exact ⟨_, rfl, Nat.zero_le 2⟩
  · next task htask => exact absurd htask (hnone task)
  · exact ⟨_, rfl, Nat.le_refl 2⟩

/-- A command ends with an exit code that is at most 2, or it comes to a task that breaks down. -/
private theorem run_cases (h : Host) (args : List String) (reader : Settings.Reader) :
    (∃ output, run h args reader = .ok output ∧ output.exitCode ≤ 2) ∨
      ∃ task b, Request.read h args = .ok (.lint task) ∧ task.BreaksDown h reader b ∧
        run h args reader = .error b := by
  by_cases htask : ∃ task, Request.read h args = .ok (.lint task)
  · obtain ⟨task, htask⟩ := htask
    rw [run_of_lint htask]
    rcases task.perform_cases h reader with hends | ⟨b, hb⟩
    · exact .inl hends
    · exact .inr ⟨task, b, htask, hb, hb.perform_eq⟩
  · exact .inl (run_of_no_task reader fun task ht => htask ⟨task, ht⟩)

private theorem run_ends_iff : (∃ output, run h args reader = .ok output) ↔
    ∀ task, Request.read h args = .ok (.lint task) → task.Unhindered h reader := by
  constructor
  · rintro ⟨output, houtput⟩ task htask
    refine Task.unhindered_iff.mpr fun b hb => ?_
    rw [run_of_lint htask, hb.perform_eq] at houtput
    cases houtput
  · intro hall
    rcases run_cases h args reader with ⟨output, houtput, -⟩ | ⟨task, b, htask, hb, -⟩
    · exact ⟨output, houtput⟩
    · exact absurd hb (Task.unhindered_iff.mp (hall task htask) b)

private theorem exitCode_le_of_run {output : Output} (hrun : run h args reader = .ok output) :
    output.exitCode ≤ 2 := by
  rcases run_cases h args reader with ⟨other, hother, hcode⟩ | ⟨task, b, -, -, hbreak⟩
  · exact Except.ok.inj (hother.symm.trans hrun) ▸ hcode
  · rw [hbreak] at hrun
    cases hrun

/-- A command that does not end has come to a task that breaks down. -/
private theorem exists_breaksDown_of_run {b : Breakdown} (hrun : run h args reader = .error b) :
    ∃ task, Request.read h args = .ok (.lint task) ∧ task.BreaksDown h reader b := by
  rcases run_cases h args reader with ⟨output, houtput, -⟩ | ⟨task, b', htask, hb', hbreak⟩
  · rw [houtput] at hrun
    cases hrun
  · exact ⟨task, htask, Except.error.inj (hbreak.symm.trans hrun) ▸ hb'⟩

/-- **How a command ends.** It ends with an exit code, which is at most 2, just when the task that
it comes to, if it does, is unhindered. A problem with the settings names their file, and like a
problem of the run it ends the command with code 2 and is told on the second output. A command that
does not end is refused its settings file or its root, or has read settings that are no text or at
which the reader gives up. -/
theorem run_ends_iff_unhindered (h : Host) (args : List String) (reader : Settings.Reader) :
    ((∃ output, run h args reader = .ok output) ↔
      ∀ task, Request.read h args = .ok (.lint task) → task.Unhindered h reader) ∧
    (∀ output, run h args reader = .ok output → output.exitCode ≤ 2) ∧
    (∀ task, Request.read h args = .ok (.lint task) → h.refusalAt? task.configPath = none →
      task.missingConfig? h.tree = none →
        (∀ p, Settings.load h.tree (some task.configPath) {} reader = .error (.problem p) →
          p.kind = .settings ∧ p.path = task.configPath ∧ run h args reader = .ok (.fatal p)) ∧
        ∀ s p, Settings.load h.tree (some task.configPath) {} reader = .ok s →
          h.refusalAt? task.rootPath = none →
          ((task.adjust s).run h.tree task.rootPath).results = .error p →
            ∃ stdout, run h args reader = .ok (.fatal p stdout)) ∧
    (∀ p stdout, (Output.fatal p stdout).exitCode = 2 ∧ (Output.fatal p stdout).stderr =
      String.ofList (dropEscapes ("Error: Fatal: " ++ p.describe ++ "\n").toList)) ∧
    ∀ b, run h args reader = .error b → ∃ task, Request.read h args = .ok (.lint task) ∧
      ((∃ path refusal stdout, b = .refused path refusal stdout ∧
          (path = task.configPath ∨ path = task.rootPath) ∧ h.refusalAt? path = some refusal) ∨
        ∃ bytes, h.tree.readBytes task.configPath = .ok bytes ∧
          ((∃ fault, b = .settings (.undecodable fault) ∧ Utf8.decode bytes = .error fault) ∨
            ∃ text cause, b = .settings (.noValue cause) ∧ Utf8.decode bytes = .ok text ∧
              reader.GivesUp (String.ofList (unifyNewlines text)) cause)) := by
  refine ⟨run_ends_iff, fun output => exitCode_le_of_run, ?_,
    fun p stdout => ⟨rfl, Output.stderr_fatal p stdout⟩, ?_⟩
  · intro task htask hconfig hmissing
    rw [run_of_lint htask]
    refine ⟨fun p hload => ?_, fun s p hload hroot hrun => ?_⟩
    · obtain ⟨detail, rfl⟩ := Settings.load_problem {} hload
      exact ⟨rfl, rfl, Task.perform_of_problem hconfig hmissing hload⟩
    · obtain ⟨stdout, houtput⟩ := Task.outputWith_of_error h.tree task hrun
      exact ⟨stdout, by rw [Task.perform_of_load hconfig hmissing hload,
        Task.start_of_not_refused hroot, houtput]⟩
  · intro b hb
    obtain ⟨task, htask, hbreak⟩ := exists_breaksDown_of_run hb
    refine ⟨task, htask, ?_⟩
    cases hbreak with
    | config hrefused => exact .inl ⟨_, _, _, rfl, .inl rfl, hrefused⟩
    | root _ _ _ hrefused => exact .inl ⟨_, _, _, rfl, .inr rfl, hrefused⟩
    | settings _ _ hload hne =>
      -- what is no problem comes from the bytes of the settings file, or from their reader
      refine .inr ?_
      rcases Settings.load_error {} hload with ⟨detail, hp⟩ | ⟨bytes, hbytes, hcause⟩
      · exact absurd hp (hne _)
      · refine ⟨bytes, hbytes, hcause.imp ?_ ?_⟩
        · rintro ⟨fault, rfl, hdecode⟩
          exact ⟨fault, rfl, hdecode⟩
        · rintro ⟨text, cause, rfl, hdecode, hgivesUp⟩
          exact ⟨text, cause, rfl, hdecode, hgivesUp⟩

end

attribute [local instance] crossMark

/-- Settings that are no text: the command does not end with a code, while the same byte in a rule
file is a problem that ends it. -/
theorem run_on_illegible_settings :
    run (({} : FileTree).putFile ⟨.current, ["configs", ".rulelint.yaml"]⟩ [0xFF])
        ["--root", "configs"] = .error (.settings (.undecodable ⟨0, [0xFF], .invalidStart⟩)) ∧
      ∃ stdout, run (({} : FileTree).putFile ⟨.current, ["configs", "a.md"]⟩ [0xFF])
        ["--root", "configs"] = .ok (.fatal (.ruleFile ⟨.current, ["configs", "a.md"]⟩
          "'utf-8' codec can't decode byte 0xff in position 0: invalid start byte") stdout) := by
  refine ⟨by rfl, ?_⟩
  generalize ht : ({} : FileTree).putFile ⟨.current, ["configs", "a.md"]⟩ [0xFF] = t
  have htask : Request.read t ["--root", "configs"] = .ok (.lint { root := some "configs" }) := by
    rw [← ht]
    rfl
  have hload : Settings.load t (some (Task.configPath { root := some "configs" })) = .ok {} := by
    rw [← ht]
    rfl
  obtain ⟨stdout, houtput⟩ := Task.outputWith_of_error t { root := some "configs" } (s := {})
    (p := .ruleFile ⟨.current, ["configs", "a.md"]⟩
      "'utf-8' codec can't decode byte 0xff in position 0: invalid start byte") <| by
    rw [← ht]
    rfl
  refine ⟨stdout, ?_⟩
  rw [run_of_lint htask, Task.perform_of_load (Host.refusalAt?_tree t _) rfl hload,
    Task.start_of_not_refused (Host.refusalAt?_tree t _)]
  exact congrArg Except.ok houtput

end Rulebook.CommandLine
