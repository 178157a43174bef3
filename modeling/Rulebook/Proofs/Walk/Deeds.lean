import Rulebook.Walk

/-!
# What a walk does

The steps of a walk leave a record of **deeds**: the folders that are listed, with the answer, and
what is reported. Each step meets a tree of its own, since between two of them anything may have
happened to the tree.

`Move` says once what a step can do, and every later fact about steps is read off it.

**Main facts.** `move_step`: a step is a move. `exists_move_of_mem`: each deed is one of a move on
one of the trees. `eq_ended_of_isEnd`: after its end a walk does nothing more.
-/

namespace Rulebook.Walk

open FileTree (Fault)

/-- Something that a walk does. -/
inductive Deed where
  /-- It lists a folder, and gets this answer. -/
  | listed (folder : Path) (answer : Except Fault (List (String × Bool)))
  /-- It reports a file, its end or a failure. -/
  | reported (event : Event)

/-- Whether a walk has come to its end with an event. -/
def Event.isEnd : Event → Bool
  | .ended => true
  | .failed _ => true
  | _ => false

/-- The folder that is listed. -/
def Deed.listed? : Deed → Option Path
  | listed folder _ => some folder
  | reported _ => none

/-- The file that is found. -/
def Deed.found? : Deed → Option Path
  | reported (.found path) => some path
  | _ => none

/-- The problem that ends the walk. -/
def Deed.failure? : Deed → Option Problem
  | reported (.failed problem) => some problem
  | _ => none

/-- The folders that are listed, in order. -/
def listedIn (deeds : List Deed) : List Path :=
  deeds.filterMap Deed.listed?

/-- The files that are found, in order. -/
def foundIn (deeds : List Deed) : List Path :=
  deeds.filterMap Deed.found?

@[simp]
theorem foundIn_append (ds ds' : List Deed) : foundIn (ds ++ ds') = foundIn ds ++ foundIn ds' :=
  List.filterMap_append

@[simp]
theorem listedIn_append (ds ds' : List Deed) : listedIn (ds ++ ds') = listedIn ds ++ listedIn ds' :=
  List.filterMap_append

theorem mem_foundIn {ds : List Deed} {p : Path} :
    p ∈ foundIn ds ↔ .reported (.found p) ∈ ds := by
  rw [foundIn, List.mem_filterMap]
  constructor
  · rintro ⟨d, hd, hp⟩
    match d, hp with
    | .reported (.found _), hp => exact Option.some.inj hp ▸ hd
  · exact fun h => ⟨_, h, rfl⟩

/-! ### Step by step -/

/-- The listing that the next step makes. -/
def listing (t : FileTree) (w : Walk) : List Deed :=
  match w.stage with
  | .active [] (folder :: _) => [.listed folder (t.list folder)]
  | _ => []

/-- What is reported of an event: a mere move is not. -/
def Event.report : Event → List Deed
  | .moved => []
  | event => [.reported event]

/-- The deeds of one step. -/
def deeds (t : FileTree) (w : Walk) : List Deed :=
  w.listing t ++ (w.step t).1.report

/-- The walk after a step on each of some trees. -/
def stepThrough : List FileTree → Walk → Walk
  | [], w => w
  | t :: ts, w => stepThrough ts (w.step t).2

/-- The deeds of a step on each of some trees. -/
def deedsThrough : List FileTree → Walk → List Deed
  | [], _ => []
  | t :: ts, w => w.deeds t ++ deedsThrough ts (w.step t).2

/-! ### Moves -/

/-- What a step can do. -/
inductive Move (t : FileTree) (w : Walk) : Event → List Deed → Walk → Prop
  /-- It begins at the root. -/
  | begin (hs : w.stage = .fresh) (h : t.isFolder w.root = true) :
    Move t w .moved [] { w with stage := .active [] [w.root] }
  /-- There is nothing to begin at. -/
  | absent (hs : w.stage = .fresh) (h : t.isFolder w.root = false) :
    Move t w .ended [.reported .ended] { w with stage := .finished }
  /-- It finds a file. -/
  | found {path : Path} {ready pending : List Path}
      (hs : w.stage = .active (path :: ready) pending) :
    Move t w (.found path) [.reported (.found path)] { w with stage := .active ready pending }
  /-- It enters a folder. -/
  | entered {folder : Path} {pending : List Path} {entries : List (String × Bool)}
      (hs : w.stage = .active [] (folder :: pending)) (h : t.list folder = .ok entries) :
    Move t w .moved [.listed folder (.ok entries)]
      { w with
        stage := .active (filesIn w.extension folder entries)
          (foldersIn folder entries ++ pending) }
  /-- A folder refuses to be listed. -/
  | refused {folder : Path} {pending : List Path} {fault : Fault}
      (hs : w.stage = .active [] (folder :: pending)) (h : t.list folder = .error fault) :
    Move t w (.failed (folderProblem w.root folder fault))
      [.listed folder (.error fault), .reported (.failed (folderProblem w.root folder fault))]
      { w with stage := .finished }
  /-- There is nothing left. -/
  | ended (hs : w.stage = .active [] []) :
    Move t w .ended [.reported .ended] { w with stage := .finished }
  /-- It has ended before. -/
  | idle (hs : w.stage = .finished) : Move t w .ended [.reported .ended] w

/-- A step is a move. -/
theorem move_step (t : FileTree) (w : Walk) :
    Move t w (w.step t).1 (w.deeds t) (w.step t).2 := by
  rw [deeds, listing, step]
  match hs : w.stage with
  | .fresh =>
    cases h : t.isFolder w.root with
    | true => exact .begin hs h
    | false => exact .absent hs h
  | .active (path :: ready) pending => exact .found hs
  | .active [] (folder :: pending) =>
    dsimp only
    cases h : t.list folder with
    | ok entries => exact .entered hs h
    | error fault => exact .refused hs h
  | .active [] [] => exact .ended hs
  | .finished => exact .idle hs

variable {t : FileTree} {w w' : Walk} {event : Event} {ds : List Deed}

theorem Move.root_eq (h : Move t w event ds w') : w'.root = w.root := by
  cases h <;> rfl

private theorem Move.extension_eq (h : Move t w event ds w') : w'.extension = w.extension := by
  cases h <;> rfl

/-- The answer to a listing is that of the tree. -/
private theorem Move.list_eq_of_mem (h : Move t w event ds w') {folder : Path}
    {answer : Except Fault (List (String × Bool))} (hmem : .listed folder answer ∈ ds) :
    t.list folder = answer := by
  cases h with
  | entered _ hlist =>
    obtain ⟨rfl, rfl⟩ := Deed.listed.inj (List.mem_singleton.mp hmem)
    exact hlist
  | refused _ hlist =>
    obtain ⟨rfl, rfl⟩ : folder = _ ∧ answer = _ := by simpa using hmem
    exact hlist
  | begin => exact absurd hmem List.not_mem_nil
  | absent => simp at hmem
  | found => simp at hmem
  | ended => simp at hmem
  | idle => simp at hmem

/-- A move fails with the problem of a folder that cannot be listed. -/
private theorem Move.list_error_of_mem (h : Move t w event ds w') {problem : Problem}
    (hmem : .reported (.failed problem) ∈ ds) :
    ∃ folder fault, t.list folder = .error fault ∧
      problem = folderProblem w.root folder fault := by
  cases h with
  | refused _ hlist => exact ⟨_, _, hlist, by simpa using hmem⟩
  | begin => exact absurd hmem List.not_mem_nil
  | absent => simp at hmem
  | found => simp at hmem
  | entered => simp at hmem
  | ended => simp at hmem
  | idle => simp at hmem

/-- One deed is a record with nothing before it and nothing after it. -/
theorem eq_of_singleton_eq {d e : Deed} {before after : List Deed}
    (h : [d] = before ++ e :: after) : before = [] ∧ e = d ∧ after = [] := by
  rcases List.singleton_eq_append_iff.mp h with ⟨rfl, h⟩ | ⟨-, h⟩
  · obtain ⟨rfl, rfl⟩ := List.cons.inj h
    exact ⟨rfl, rfl, rfl⟩
  · exact absurd h (List.cons_ne_nil _ _)

/-- The end of a walk is the last that a move reports. -/
private theorem Move.finished_of_isEnd (h : Move t w event ds w') {before after : List Deed}
    {e : Event} (heq : ds = before ++ .reported e :: after) (he : e.isEnd = true) :
    after = [] ∧ w'.stage = .finished := by
  cases h with
  | begin => exact absurd (List.append_eq_nil_iff.mp heq.symm).2 (List.cons_ne_nil _ _)
  | absent => exact ⟨(eq_of_singleton_eq heq).2.2, rfl⟩
  | found =>
    obtain rfl := Deed.reported.inj (eq_of_singleton_eq heq).2.1
    exact absurd he Bool.false_ne_true
  | entered => exact nomatch (eq_of_singleton_eq heq).2.1
  | refused =>
    cases before with
    | nil => exact nomatch (List.cons.inj heq).1
    | cons d before => exact ⟨(eq_of_singleton_eq (List.cons.inj heq).2).2.2, rfl⟩
  | ended => exact ⟨(eq_of_singleton_eq heq).2.2, rfl⟩
  | idle hs => exact ⟨(eq_of_singleton_eq heq).2.2, hs⟩

/-! ### Many steps -/

theorem deedsThrough_append (ts us : List FileTree) (w : Walk) :
    w.deedsThrough (ts ++ us) = w.deedsThrough ts ++ (w.stepThrough ts).deedsThrough us := by
  induction ts generalizing w with
  | nil => rfl
  | cons t ts ih =>
    rw [List.cons_append, deedsThrough, deedsThrough, ih, List.append_assoc]
    rfl

theorem root_stepThrough (ts : List FileTree) (w : Walk) : (w.stepThrough ts).root = w.root := by
  induction ts generalizing w with
  | nil => rfl
  | cons t ts ih => exact (ih _).trans (move_step t w).root_eq

theorem extension_stepThrough (ts : List FileTree) (w : Walk) :
    (w.stepThrough ts).extension = w.extension := by
  induction ts generalizing w with
  | nil => rfl
  | cons t ts ih => exact (ih _).trans (move_step t w).extension_eq

/-- Each deed is one of a move on one of the trees. -/
theorem exists_move_of_mem {ts : List FileTree} {d : Deed} (h : d ∈ w.deedsThrough ts) :
    ∃ t ∈ ts, ∃ u event ds u', Move t u event ds u' ∧ u.root = w.root ∧ d ∈ ds := by
  induction ts generalizing w with
  | nil => exact absurd h List.not_mem_nil
  | cons t ts ih =>
    have hmove := move_step t w
    rcases List.mem_append.mp h with hd | hrest
    · exact ⟨t, List.mem_cons_self, _, _, _, _, hmove, rfl, hd⟩
    · obtain ⟨u, hu, v, event, ds, v', hmove', hroot, hd⟩ := ih hrest
      exact ⟨u, List.mem_cons_of_mem _ hu, v, event, ds, v', hmove', hroot.trans hmove.root_eq, hd⟩

/-- The answer to a listing is that of one of the trees. -/
theorem list_of_mem_deedsThrough {ts : List FileTree} {folder : Path}
    {answer : Except Fault (List (String × Bool))}
    (h : .listed folder answer ∈ w.deedsThrough ts) : ∃ t ∈ ts, t.list folder = answer := by
  obtain ⟨t, ht, u, event, ds, u', hmove, -, hmem⟩ := exists_move_of_mem h
  exact ⟨t, ht, hmove.list_eq_of_mem hmem⟩

/-- A failure is that of a folder that one of the trees cannot list. -/
theorem failed_of_mem_deedsThrough {ts : List FileTree} {problem : Problem}
    (h : .reported (.failed problem) ∈ w.deedsThrough ts) :
    ∃ t ∈ ts, ∃ folder fault, t.list folder = .error fault ∧
      problem = folderProblem w.root folder fault := by
  obtain ⟨t, ht, u, event, ds, u', hmove, hroot, hmem⟩ := exists_move_of_mem h
  obtain ⟨folder, fault, hlist, hproblem⟩ := hmove.list_error_of_mem hmem
  exact ⟨t, ht, folder, fault, hlist, hroot ▸ hproblem⟩

/-- A walk that has ended says so at every step, and does nothing else. -/
theorem deedsThrough_of_finished (hs : w.stage = .finished) (ts : List FileTree) :
    w.stepThrough ts = w ∧ ∀ d ∈ w.deedsThrough ts, d = .reported .ended := by
  induction ts with
  | nil => exact ⟨rfl, List.forall_mem_nil _⟩
  | cons t ts ih =>
    have hstep : w.step t = (.ended, w) := by rw [step, hs]
    have hdeeds : w.deeds t = [.reported .ended] := by rw [deeds, listing, hstep, hs]; rfl
    rw [stepThrough, deedsThrough, hstep, hdeeds]
    exact ⟨ih.1, List.forall_mem_append.mpr ⟨List.forall_mem_singleton.mpr rfl, ih.2⟩⟩

/-- A walk that has ended finds nothing, lists nothing and does not fail. -/
theorem quiet_of_finished (hs : w.stage = .finished) (ts : List FileTree) :
    foundIn (w.deedsThrough ts) = [] ∧ listedIn (w.deedsThrough ts) = [] ∧
      (w.deedsThrough ts).findSome? Deed.failure? = none := by
  have h := (deedsThrough_of_finished hs ts).2
  refine ⟨?_, ?_, ?_⟩
  · exact List.filterMap_eq_nil_iff.mpr fun d hd => by rw [h d hd]; rfl
  · exact List.filterMap_eq_nil_iff.mpr fun d hd => by rw [h d hd]; rfl
  · exact List.findSome?_eq_none_iff.mpr fun d hd => by rw [h d hd]; rfl

/-- After its end a walk says so at every step, and does nothing else. -/
theorem eq_ended_of_isEnd {ts : List FileTree} {before after : List Deed} {e : Event}
    (heq : w.deedsThrough ts = before ++ .reported e :: after) (he : e.isEnd = true) :
    ∀ d ∈ after, d = .reported .ended := by
  induction ts generalizing w before with
  | nil => exact absurd (List.append_eq_nil_iff.mp heq.symm).2 (List.cons_ne_nil _ _)
  | cons t ts ih =>
    rcases List.append_eq_append_iff.mp heq with ⟨mid, -, hmid⟩ | ⟨mid, hd, hmid⟩
    · exact ih hmid
    · -- the end is at the seam of two steps, or within the first of them
      cases mid with
      | nil =>
        have hrest : _ = [] ++ .reported e :: after := hmid.symm
        exact ih hrest
      | cons d mid =>
        obtain ⟨rfl, rfl⟩ := List.cons.inj hmid
        obtain ⟨rfl, hs⟩ := (move_step t w).finished_of_isEnd hd he
        exact (deedsThrough_of_finished hs ts).2

end Rulebook.Walk
