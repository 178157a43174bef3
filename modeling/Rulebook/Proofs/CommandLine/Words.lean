import Rulebook.CommandLine.Request

/-!
# Writing switches out

Switches are written as the arguments that give them: a long name, and the value behind it where
there is one. Reading these arguments gives the switches back, and a task can be told by its
switches in any order.

**Main facts.** `read_words`: the written switches are read as they were. `request_of_switches`: in
whichever order the switches of a task are written, they ask for the task.
-/

namespace Rulebook.CommandLine

/-! ### Switches as arguments -/

/-- The arguments that give a switch. -/
def Given.words : Given → List String
  | root value => ["--root", value]
  | config value => ["--config", value]
  | strict true => ["--strict"]
  | strict false => ["--lenient"]
  | verbose => ["-v"]
  | help => ["-h"]

/-- Written switches are read back, whatever their values look like. -/
private theorem read_words_append (g : Given) (rest : List String) :
    Arguments.read (g.words ++ rest) = (Arguments.read rest).map (Arguments.give [g]) := by
  cases g with
  | strict on => cases on <;> rfl
  | _ => rfl

theorem read_words (given : List Given) :
    Arguments.read (given.flatMap Given.words) = .ok { given } := by
  induction given with
  | nil => rfl
  | cons g given ih =>
    rw [List.flatMap_cons, read_words_append, ih]
    rfl

/-! ### Tasks as switches -/

namespace Task

/-- The switches that tell a task. -/
def switches (task : Task) : List Given :=
  (task.root.map .root).toList ++ (task.config.map .config).toList ++
    (task.strict.map .strict).toList ++ if task.verbose then [.verbose] else []

private theorem ofGiven_switches (task : Task) : ofGiven task.switches = task := by
  obtain ⟨root, config, strict, verbose⟩ := task
  cases root <;> cases config <;> cases strict <;> cases verbose <;> rfl

private theorem mem_switches {task : Task} {g : Given} (h : g ∈ task.switches) :
    match g with
    | .root value => task.root = some value
    | .config value => task.config = some value
    | .strict on => task.strict = some on
    | .verbose => task.verbose = true
    | .help => False := by
  obtain ⟨root, config, strict, verbose⟩ := task
  simp only [switches, List.mem_append, Option.mem_toList, Option.map_eq_some_iff] at h
  rcases h with ((⟨value, rfl, rfl⟩ | ⟨value, rfl, rfl⟩) | ⟨on, rfl, rfl⟩) | h
  · rfl
  · rfl
  · rfl
  · cases verbose with
    | false => exact absurd h List.not_mem_nil
    | true =>
      obtain rfl := List.mem_singleton.mp h
      rfl

/-- Two switches of a task may change places: either they say something about different things, or
they are the same. -/
private theorem take_comm {task : Task} {x y : Given} (hx : x ∈ task.switches)
    (hy : y ∈ task.switches) (s : Task) : (s.take x).take y = (s.take y).take x := by
  have hx := mem_switches hx
  have hy := mem_switches hy
  cases x <;> cases y <;> first
    | rfl
    | exact absurd hx id
    | exact absurd hy id
    | rw [Option.some.inj (hx.symm.trans hy)]

/-- The switches of a task describe it in any order. -/
private theorem ofGiven_of_perm {task : Task} {given : List Given} (h : given.Perm task.switches) :
    ofGiven given = task := by
  have hcomm : ∀ x ∈ given, ∀ y ∈ given, ∀ s : Task, (s.take x).take y = (s.take y).take x :=
    fun x hx y hy => take_comm (h.mem_iff.mp hx) (h.mem_iff.mp hy)
  rw [ofGiven, h.foldl_eq' hcomm]
  exact ofGiven_switches task

end Task

/-! ### Requests -/

variable {h : Host} {task : Task}

namespace Task

/-- The paths of a task are **of the right sort** when the root is no file and the settings file is
no folder. -/
structure PathsFit (h : Host) (task : Task) : Prop where
  root : ∀ value, task.root = some value →
    ∀ content, h.entryAt? value ≠ some (.file content)
  config : ∀ value, task.config = some value →
    ∀ children, h.entryAt? value ≠ some (.folder children)

/-- The paths of a task are **readable** when the process may read what they lead to, as far as they
lead anywhere. -/
structure PathsReadable (h : Host) (task : Task) : Prop where
  root : ∀ value, task.root = some value → (h.entryAt? value).isSome = true →
    h.mayRead value = true
  config : ∀ value, task.config = some value → (h.entryAt? value).isSome = true →
    h.mayRead value = true

end Task

/-- Nothing is wrong with a path to an entry that is fit just when the entry may be read. -/
private theorem pathFault?_eq_none_iff {unfit : Entry → Bool}
    {isUnfit isUnreadable : String → UsageError} {value : String}
    (hfit : ∀ e, h.entryAt? value = some e → unfit e = false) :
    Request.pathFault? h unfit isUnfit isUnreadable value = none ↔
      ((h.entryAt? value).isSome = true → h.mayRead value = true) := by
  rw [Request.pathFault?]
  cases hentry : h.entryAt? value with
  | none => simp
  | some e => simp [hfit e hentry]

private theorem rootFault?_eq_none_iff (hfit : task.PathsFit h) :
    Request.rootFault? h task = none ↔
      ∀ value, task.root = some value → (h.entryAt? value).isSome = true →
        h.mayRead value = true := by
  rw [Request.rootFault?, Option.bind_eq_none_iff]
  refine forall₂_congr fun value hvalue => pathFault?_eq_none_iff fun e he => ?_
  cases e with
  | file content => exact absurd he (hfit.root value hvalue content)
  | _ => rfl

private theorem configFault?_eq_none_iff (hfit : task.PathsFit h) :
    Request.configFault? h task = none ↔
      ∀ value, task.config = some value → (h.entryAt? value).isSome = true →
        h.mayRead value = true := by
  rw [Request.configFault?, Option.bind_eq_none_iff]
  refine forall₂_congr fun value hvalue => pathFault?_eq_none_iff fun e he => ?_
  cases e with
  | folder children => exact absurd he (hfit.config value hvalue children)
  | _ => rfl

variable {given : List Given}

private theorem fault?_eq_none_iff (hfit : task.PathsFit h) (hgiven : given.Perm task.switches) :
    Request.fault? h given = none ↔ task.PathsReadable h := by
  have hreadable : task.PathsReadable h ↔
      Request.rootFault? h task = none ∧ Request.configFault? h task = none := by
    rw [rootFault?_eq_none_iff hfit, configFault?_eq_none_iff hfit]
    exact ⟨fun hr => ⟨hr.root, hr.config⟩, fun hr => ⟨hr.1, hr.2⟩⟩
  rw [Request.fault?, Task.ofGiven_of_perm hgiven, hreadable]
  split
  · rw [Option.or_eq_none_iff, and_comm]
  · rw [Option.or_eq_none_iff]

private theorem read_of_switches (hgiven : given.Perm task.switches) :
    Request.read h (given.flatMap Given.words) =
      match Request.fault? h given with
      | some e => .error e
      | none => .ok (.lint task) := by
  have hhelp : Given.help ∉ given := fun hmem => Task.mem_switches (hgiven.mem_iff.mp hmem)
  rw [Request.read, read_words]
  dsimp only
  rw [Request.ofArguments, if_neg hhelp]
  cases Request.fault? h given with
  | some e => rfl
  | none =>
    dsimp only
    rw [if_pos rfl, Task.ofGiven_of_perm hgiven]

/-- **A task is asked for** by its switches, in whichever order they are written, if its paths are
of the right sort and readable. -/
theorem request_of_switches (hfit : task.PathsFit h) (hreadable : task.PathsReadable h)
    (hgiven : given.Perm task.switches) :
    Request.read h (given.flatMap Given.words) = .ok (.lint task) := by
  rw [read_of_switches hgiven, (fault?_eq_none_iff hfit hgiven).mpr hreadable]

/-- Paths that are not readable are an error in usage. -/
theorem request_of_not_readable (hfit : task.PathsFit h) (hreadable : ¬ task.PathsReadable h)
    (hgiven : given.Perm task.switches) :
    ∃ e, Request.read h (given.flatMap Given.words) = .error e := by
  rw [read_of_switches hgiven]
  cases hfault : Request.fault? h given with
  | none => exact absurd ((fault?_eq_none_iff hfit hgiven).mp hfault) hreadable
  | some e => exact ⟨e, rfl⟩

end Rulebook.CommandLine
