import Rulebook.Proofs.CommandLine.Exit
import Rulebook.Proofs.CommandLine.Words
import Rulebook.Proofs.Text.Escapes

/-!
# The command as a composition

A command looks for the settings file, loads it, runs the checks and reports. Each stage can end the
command, and what was written until then stays. This module puts the stages together: from what each
of them comes to, it tells the exit code and both outputs of the whole command, for a task that is
told by its switches in any order, on any host, for any reader of settings and any table of emoji.

**Main fact.** `run_is_composition`: the outcome of a command by the outcomes of its stages. What
is told about a problem lacks its escape sequences, so it is told as it is just when it has none. A
root or a settings file that may not be read ends the command before its first stage.
-/

namespace Rulebook.CommandLine

open Text

/-! ### What the stages write -/

/-- A text as the second output shows it. -/
def shown (text : String) : String :=
  String.ofList (dropEscapes text.toList)

private theorem shown_eq_self_iff {text : String} :
    shown text = text ↔ ¬ HoldsSequence text.toList := by
  rw [← dropEscapes_eq_self_iff, ← String.toList_inj, shown, String.toList_ofList]

/-- What is told about a problem that ends a command. -/
def notice (p : Problem) : String :=
  "Error: Fatal: " ++ p.describe ++ "\n"

private theorem Output.fatal_eq (p : Problem) (stdout : String) :
    Output.fatal p stdout = ⟨2, stdout, shown (notice p)⟩ :=
  congrArg (Output.mk 2 stdout) (Output.stderr_fatal p stdout)

namespace Task

/-- What the run of a task comes to, where `s` are the settings that were loaded. A flag of the task
replaces the one in the settings. -/
def outcome (t : FileTree) (task : Task) (s : Settings) : Run.Outcome :=
  Settings.run { s with strict := task.strict.getD s.strict } t task.rootPath

private theorem missingConfig?_eq_none {t : FileTree} {task : Task}
    (hexists : ∀ value, task.config = some value → t.exists? (Path.ofString value) = true) :
    task.missingConfig? t = none := by
  rw [missingConfig?]
  cases hconfig : task.config with
  | none => rfl
  | some value => exact if_pos (hexists value hconfig)

private theorem missingConfig?_of_not_exists {t : FileTree} {task : Task} {value : String}
    (hconfig : task.config = some value) (hexists : t.exists? (Path.ofString value) = false) :
    task.missingConfig? t = some (Path.ofString value) := by
  rw [missingConfig?, hconfig]
  dsimp only
  rw [hexists]
  rfl

end Task

section

variable [EmojiTable]

namespace Task

/-- What is written while a run goes on: a header and, if the task is verbose, one line for each
file that was dealt with. -/
def progress (task : Task) (observed : List Observation) : String :=
  task.header ++ task.traces observed

/-! ### The stages, one after the other -/

variable {t : FileTree} {task : Task}

private theorem outputWith_of_problem {s : Settings} {p : Problem}
    (hrun : (task.outcome t s).results = .error p) :
    task.outputWith t s = ⟨2, task.progress (task.outcome t s).observed, shown (notice p)⟩ := by
  rw [← Output.fatal_eq, outputWith]
  rw [outcome] at hrun ⊢
  rw [adjust, hrun]
  rfl

private theorem outputWith_of_results {s : Settings} {r : Results}
    (hrun : (task.outcome t s).results = .ok r) :
    task.outputWith t s =
      ⟨if 0 < r.summary.errors then 1 else 0,
        task.progress (task.outcome t s).observed ++ task.reportText r, ""⟩ := by
  rw [outputWith]
  rw [outcome] at hrun ⊢
  rw [adjust, hrun]
  rfl

end Task

/-! ### The whole command -/

/-- **The command is the composition of its stages**, for a task with paths of the right sort and
its switches in any order. Where the root or the settings file may not be read, the command ends
with code 2 and writes nothing to the first output. Where they may be read, and are not refused, a
settings file that is named but is not there ends it in the same way. So does a problem with the
settings, or with the run, of which the progress stays. Otherwise the results decide the exit code
and are reported behind the progress. -/
theorem run_is_composition (h : Host) (task : Task) (reader : Settings.Reader)
    (hfit : task.PathsFit h) {given : List Given} (hgiven : given.Perm task.switches) :
    (¬ task.PathsReadable h →
      ∃ stderr, run h (given.flatMap Given.words) reader = .ok ⟨2, "", stderr⟩) ∧
    (task.PathsReadable h → h.refusalAt? task.configPath = none →
      (∀ value, task.config = some value → h.tree.exists? (Path.ofString value) = false →
        ∃ stderr, run h (given.flatMap Given.words) reader = .ok ⟨2, "", stderr⟩) ∧
      ((∀ value, task.config = some value → h.tree.exists? (Path.ofString value) = true) →
        (∀ p, Settings.load h.tree (some task.configPath) {} reader = .error (.problem p) →
          run h (given.flatMap Given.words) reader = .ok ⟨2, "", shown (notice p)⟩) ∧
        ∀ s, Settings.load h.tree (some task.configPath) {} reader = .ok s →
          h.refusalAt? task.rootPath = none →
            (∀ p, (task.outcome h.tree s).results = .error p →
              run h (given.flatMap Given.words) reader =
                .ok ⟨2, task.progress (task.outcome h.tree s).observed, shown (notice p)⟩) ∧
            ∀ r, (task.outcome h.tree s).results = .ok r →
              run h (given.flatMap Given.words) reader =
                .ok ⟨if 0 < r.summary.errors then 1 else 0,
                  task.progress (task.outcome h.tree s).observed ++ task.reportText r, ""⟩)) ∧
    ∀ text, shown text = text ↔ ¬ HoldsSequence text.toList := by
  refine ⟨fun hreadable => ?_, fun hreadable hconfig => ?_, fun text => shown_eq_self_iff⟩
  · obtain ⟨e, he⟩ := request_of_not_readable hfit hreadable hgiven
    rw [run, he]
    exact ⟨_, rfl⟩
  · rw [run_of_lint (request_of_switches hfit hreadable hgiven)]
    refine ⟨fun value hvalue hexists => ?_, fun hexists => ?_⟩
    · have hmissing := Task.missingConfig?_of_not_exists hvalue hexists
      exact ⟨_, Task.perform_of_missing hconfig hmissing⟩
    · -- from here on, each stage is told by what it comes to
      have hmissing : task.missingConfig? h.tree = none := Task.missingConfig?_eq_none hexists
      refine ⟨fun p hload => ?_, fun s hload hroot => ⟨fun p hp => ?_, fun r hr => ?_⟩⟩
      · rw [Task.perform_of_problem hconfig hmissing hload, Output.fatal_eq]
      · rw [Task.perform_of_load hconfig hmissing hload, Task.start_of_not_refused hroot,
          Task.outputWith_of_problem hp]
      · rw [Task.perform_of_load hconfig hmissing hload, Task.start_of_not_refused hroot,
          Task.outputWith_of_results hr]

end

attribute [local instance] crossMark

/-- A verbose run that ends at its second file: the first one is listed, and there is no report. -/
theorem run_ends_at_second_file :
    run ((({} : FileTree).putFile ⟨.current, ["configs", "a.md"]⟩ []).putFile
        ⟨.current, ["configs", "b.md"]⟩ [0xFF]) ["-v", "--root", "configs", "--strict"] =
      .ok ⟨2, Task.progress ⟨some "configs", none, some true, true⟩
          [⟨⟨.current, ["configs", "a.md"]⟩, false⟩],
        shown (notice (.ruleFile ⟨.current, ["configs", "b.md"]⟩
          "'utf-8' codec can't decode byte 0xff in position 0: invalid start byte"))⟩ := by
  generalize ht : (({} : FileTree).putFile ⟨.current, ["configs", "a.md"]⟩ []).putFile
    ⟨.current, ["configs", "b.md"]⟩ [0xFF] = t
  generalize htask : (⟨some "configs", none, some true, true⟩ : Task) = task
  have hpaths : task.PathsFit t := by
    subst htask ht
    refine ⟨fun value hvalue content hcontent => ?_, fun value hvalue => ?_⟩
    · obtain rfl := Option.some.inj hvalue
      cases hcontent
    · cases hvalue
  have hgiven : [.verbose, .root "configs", .strict true].Perm task.switches := by
    subst htask
    exact .trans (.swap _ _ _) (.cons _ (.swap _ _ _))
  have hload : Settings.load t (some task.configPath) = .ok {} := by
    subst htask ht
    rfl
  have hobserved : (task.outcome t {}).observed = [⟨⟨.current, ["configs", "a.md"]⟩, false⟩] := by
    subst htask ht
    rfl
  have hproblem : (task.outcome t {}).results = .error (.ruleFile ⟨.current, ["configs", "b.md"]⟩
      "'utf-8' codec can't decode byte 0xff in position 0: invalid start byte") := by
    subst htask ht
    rfl
  -- no settings file is named, so none is missing
  obtain ⟨-, hstages, -⟩ := run_is_composition t task .standard hpaths hgiven
  have hexists : ∀ value, task.config = some value → t.exists? (Path.ofString value) = true := by
    subst htask
    exact fun value hvalue => absurd hvalue (Option.some_ne_none value).symm
  have hreadable : task.PathsReadable t := ⟨fun _ _ _ => rfl, fun _ _ _ => rfl⟩
  have hstages := hstages hreadable (Host.refusalAt?_tree t _)
  have hrun := ((hstages.2 hexists).2 {} hload (Host.refusalAt?_tree t _)).1 _ hproblem
  rw [hobserved] at hrun
  exact hrun

/-- A settings file with an escape sequence in its name: what is told about it is not the whole
notice. -/
private theorem notice_loses_escape_sequence :
    ∃ p output, Settings.load (({} : FileTree).putFile ⟨.current, ["a\x1b[31mb.yaml"]⟩
        [0x78, 0x3A, 0x20, 0x31, 0x0A]) (some ⟨.current, ["a\x1b[31mb.yaml"]⟩) =
          .error (.problem p) ∧
      run (({} : FileTree).putFile ⟨.current, ["a\x1b[31mb.yaml"]⟩ [0x78, 0x3A, 0x20, 0x31, 0x0A])
        ["--root", "configs", "--config", "a\x1b[31mb.yaml"] = .ok output ∧
      output.stderr ≠ "Error: Fatal: " ++ p.describe ++ "\n" := by
  generalize hpath : (⟨.current, ["a\x1b[31mb.yaml"]⟩ : Path) = path
  generalize ht : ({} : FileTree).putFile path [0x78, 0x3A, 0x20, 0x31, 0x0A] = t
  generalize hp : Problem.settings path
    "Additional properties are not allowed ('x' was unexpected)" = p
  have hload : Settings.load t (some path) = .error (.problem p) := by
    have hbytes : t.readBytes path = .ok [0x78, 0x3A, 0x20, 0x31, 0x0A] := by
      subst ht hpath
      rfl
    have hdecode : Utf8.decode [0x78, 0x3A, 0x20, 0x31, 0x0A] =
        .ok ['x', ':', ' ', '1', '\n'] := by
      rfl
    have htext : Settings.ofText {} path "x: 1\n" = .error (.problem p) := by
      subst hp
      rfl
    exact (Settings.load_decodable {} hbytes hdecode).trans htext
  obtain ⟨task, htask, hconfig, hmissing⟩ : ∃ task, Request.read t
      ["--root", "configs", "--config", "a\x1b[31mb.yaml"] = .ok (.lint task) ∧
        task.configPath = path ∧ task.missingConfig? t = none := by
    subst ht hpath
    exact ⟨⟨some "configs", some "a\x1b[31mb.yaml", none, false⟩, by rfl, by rfl, by rfl⟩
  have hperform : task.perform t = .ok (.fatal p) :=
    Task.perform_of_problem (Host.refusalAt?_tree t _) hmissing (hconfig.symm ▸ hload)
  refine ⟨p, .fatal p, hload, (run_of_lint htask).trans hperform, ?_⟩
  rw [Output.fatal_eq]
  have hname : p.path.toString.toList = 'a' :: escapeCharacter :: '[' :: "31mb.yaml".toList := by
    subst hp hpath
    rfl
  obtain ⟨front, hfront⟩ : ∃ front, notice p = front ++ p.path.toString ++ "\n" :=
    ⟨"Error: Fatal: " ++ (p.message ++ ": "),
      congrArg (· ++ "\n") String.append_assoc.symm⟩
  -- the bracket in the name is followed by the rest of an escape sequence
  have hholds : HoldsSequence (notice p).toList := by
    refine ⟨front.toList ++ ['a'], "31mb.yaml".toList ++ "\n".toList, ?_, by decide⟩
    rw [hfront, String.toList_append, String.toList_append, hname, List.append_assoc,
      List.append_assoc]
    rfl
  exact fun heq => shown_eq_self_iff.mp heq hholds

/-- A root that can be looked up but not be read: the run would end with a problem behind a header,
but the command ends before there is a header. -/
private theorem unreadable_root_has_no_header :
    ∃ p output, Settings.load (({} : FileTree).putDenied ⟨.current, ["configs"]⟩)
        (some ⟨.current, ["configs", ".rulelint.yaml"]⟩) = .ok {} ∧
      (({} : Settings).run (({} : FileTree).putDenied ⟨.current, ["configs"]⟩)
        ⟨.current, ["configs"]⟩).results = .error p ∧
      run { tree := ({} : FileTree).putDenied ⟨.current, ["configs"]⟩, mayRead := fun _ => false }
        ["--root", "configs"] = .ok output ∧
      output.stdout ≠ ({} : Console).header ⟨.current, ["configs"]⟩ false := by
  refine ⟨.rootFolder ⟨.current, ["configs"]⟩ "[Errno 13] Permission denied: 'configs'",
    .failure "Invalid value for '--root': Directory 'configs' is not readable." ""
      [usageLine, "Try 'rulelint --help' for help.", ""], by rfl, by rfl, by rfl, ?_⟩
  exact fun heq => absurd (congrArg String.length heq) (by decide +kernel)

/-- **The stages tell more than the command**: an escape sequence in a name, and a header where the
root may not be read. -/
theorem stages_tell_more_than_the_command :
    let file := ({} : FileTree).putFile ⟨.current, ["a\x1b[31mb.yaml"]⟩
      [0x78, 0x3A, 0x20, 0x31, 0x0A]
    let folder := ({} : FileTree).putDenied ⟨.current, ["configs"]⟩
    (∃ p output, Settings.load file (some ⟨.current, ["a\x1b[31mb.yaml"]⟩) = .error (.problem p) ∧
      run file ["--root", "configs", "--config", "a\x1b[31mb.yaml"] = .ok output ∧
      output.stderr ≠ "Error: Fatal: " ++ p.describe ++ "\n") ∧
    ∃ p output, Settings.load folder (some ⟨.current, ["configs", ".rulelint.yaml"]⟩) = .ok {} ∧
      (({} : Settings).run folder ⟨.current, ["configs"]⟩).results = .error p ∧
      run { tree := folder, mayRead := fun _ => false } ["--root", "configs"] = .ok output ∧
      output.stdout ≠ ({} : Console).header ⟨.current, ["configs"]⟩ false :=
  ⟨notice_loses_escape_sequence, unreadable_root_has_no_header⟩

end Rulebook.CommandLine
