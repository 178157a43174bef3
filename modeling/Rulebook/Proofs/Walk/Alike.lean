import Rulebook.Proofs.FileTree.Reached
import Rulebook.Proofs.Walk.Preorder

/-!
# Walks of trees that list alike

A walk asks a tree whether its root is a folder, and then for the listings of folders that earlier
listings have named. Two trees that answer these questions alike, each below a root of its own, are
walked alike: with names below the root in place of paths, the two walks find the same files, and
fail at the same folder for the same reason if they do. The bound on the steps is taken from the
size of a tree, which may differ, but steps beyond the end add nothing.

**Main facts.** `Abreast.step`: walks that are abreast stay so. `exists_route`: trees that list
alike have one route.
-/

namespace Rulebook

namespace Walk

open FileTree (Fault)

variable {t t' : FileTree} {root root' : Path}

/-! ### Routes -/

/-- A trace with names below the root in place of paths. -/
structure Route where
  found : List (List String) := []
  failure : Option (List String × Fault) := none

/-- The trace of a route from a root. -/
def Route.at (route : Route) (root : Path) : Trace where
  found := route.found.map root.append
  failure := route.failure.map fun f => folderProblem root (root.append f.1) f.2

/-! ### Listings below a root -/

/-- The names below the root of the entries of a folder. -/
def namesIn (names : List String) (entries : List (String × Bool)) : List (List String) :=
  entries.map fun entry => names ++ [entry.1]

private theorem filesIn_append (extension : String) (root : Path) (names : List String)
    (entries : List (String × Bool)) :
    filesIn extension (root.append names) entries =
      (namesIn names (entries.filter fun e => !e.2 && hasEnding extension e.1)).map
        root.append := by
  rw [filesIn, namesIn, List.map_map]
  exact List.map_congr_left fun e _ => (root.append_concat names e.1).symm

private theorem foldersIn_append (root : Path) (names : List String)
    (entries : List (String × Bool)) :
    foldersIn (root.append names) entries =
      (namesIn names (entries.filter fun e => e.2)).map root.append := by
  rw [foldersIn, namesIn, List.map_map]
  exact List.map_congr_left fun e _ => (root.append_concat names e.1).symm

/-! ### Walks abreast -/

/-- Two stages are **abreast** when what is ready and what is pending has the same names below both
roots, and the walk of the first tree has come by these names. -/
inductive Stage.Abreast (t : FileTree) (root root' : Path) : Stage → Stage → Prop
  | fresh : Abreast t root root' .fresh .fresh
  | active {ready pending : List (List String)} (hready : ∀ names ∈ ready, t.Shows root names)
      (hpending : ∀ names ∈ pending, t.Reaches root names) :
    Abreast t root root' (.active (ready.map root.append) (pending.map root.append))
      (.active (ready.map root'.append) (pending.map root'.append))
  | finished : Abreast t root root' .finished .finished

/-- Two events are **abreast** when they say the same, with the same names below both roots. -/
inductive Event.Abreast (t : FileTree) (root root' : Path) : Event → Event → Prop
  | moved : Abreast t root root' .moved .moved
  | found {names : List String} (h : t.Shows root names) :
    Abreast t root root' (.found (root.append names)) (.found (root'.append names))
  | ended : Abreast t root root' .ended .ended
  | failed (names : List String) (fault : Fault) :
    Abreast t root root' (.failed (folderProblem root (root.append names) fault))
      (.failed (folderProblem root' (root'.append names) fault))

/-- When only the roots are pending, two walks are abreast. -/
private theorem Stage.abreast_roots (t : FileTree) (root root' : Path) :
    Stage.Abreast t root root' (.active [] [root]) (.active [] [root']) := by
  have h : Stage.Abreast t root root' (.active [] [root.append []])
      (.active [] [root'.append []]) :=
    .active (List.forall_mem_nil _) (List.forall_mem_singleton.mpr .root)
  rwa [Path.append_nil, Path.append_nil] at h

/-- A listing adds the same names on both sides. -/
private theorem Stage.abreast_entered {names : List String} {entries : List (String × Bool)}
    (hnames : t.Reaches root names) (hlist : t.list (root.append names) = .ok entries)
    {pending : List (List String)} (hpending : ∀ names ∈ pending, t.Reaches root names)
    (extension : String) :
    Stage.Abreast t root root'
      (.active (filesIn extension (root.append names) entries)
        (foldersIn (root.append names) entries ++ pending.map root.append))
      (.active (filesIn extension (root'.append names) entries)
        (foldersIn (root'.append names) entries ++ pending.map root'.append)) := by
  rw [filesIn_append, filesIn_append, foldersIn_append, foldersIn_append, ← List.map_append,
    ← List.map_append]
  refine .active ?_ (List.forall_mem_append.mpr ⟨?_, hpending⟩)
  · refine List.forall_mem_map.mpr fun entry he => ?_
    obtain ⟨name, kind⟩ := entry
    obtain ⟨hmem, hkind⟩ := List.mem_filter.mp he
    obtain rfl : kind = false := by simpa using (Bool.and_eq_true_iff.mp hkind).1
    exact ⟨names, entries, name, hnames, hlist, hmem, rfl⟩
  · refine List.forall_mem_map.mpr fun entry he => ?_
    obtain ⟨name, kind⟩ := entry
    obtain ⟨hmem, rfl⟩ := List.mem_filter.mp he
    exact .child hnames hlist hmem

/-- **Walks that are abreast stay so.** -/
theorem Stage.Abreast.step {stage stage' : Stage} (hs : stage.Abreast t root root' stage')
    (h : t.ListsAlike t' root root') (extension : String) :
    ∃ event event' next next',
      Walk.step t { root, extension, stage } = (event, { root, extension, stage := next }) ∧
      Walk.step t' { root := root', extension, stage := stage' } =
        (event', { root := root', extension, stage := next' }) ∧
      Event.Abreast t root root' event event' ∧ Stage.Abreast t root root' next next' := by
  rw [Walk.step, Walk.step]
  cases hs with
  | fresh =>
    dsimp only
    rw [← h.isFolder_eq]
    cases t.isFolder root with
    | true => exact ⟨_, _, _, _, rfl, rfl, .moved, abreast_roots t root root'⟩
    | false => exact ⟨_, _, _, _, rfl, rfl, .ended, .finished⟩
  | @active ready pending hready hpending =>
    cases ready with
    | cons names ready =>
      -- what is ready is found without a look at the tree
      obtain ⟨hnames, hready⟩ := List.forall_mem_cons.mp hready
      exact ⟨_, _, _, _, rfl, rfl, .found hnames, .active hready hpending⟩
    | nil =>
      cases pending with
      | nil => exact ⟨_, _, _, _, rfl, rfl, .ended, .finished⟩
      | cons names pending =>
        obtain ⟨hnames, hpending⟩ := List.forall_mem_cons.mp hpending
        simp only [List.map_nil, List.map_cons]
        rw [← h.list_eq names hnames]
        cases hlist : t.list (root.append names) with
        | ok entries =>
          exact ⟨_, _, _, _, rfl, rfl, .moved, abreast_entered hnames hlist hpending extension⟩
        | error fault => exact ⟨_, _, _, _, rfl, rfl, .failed names fault, .finished⟩
  | finished => exact ⟨_, _, _, _, rfl, rfl, .ended, .finished⟩

/-- Walks that are abreast have one route, for as many steps. -/
theorem Stage.Abreast.exists_route {stage stage' : Stage} (hs : stage.Abreast t root root' stage')
    (h : t.ListsAlike t' root root') (extension : String) (n : Nat) :
    ∃ route : Route, (∀ names ∈ route.found, t.Shows root names) ∧
      traceWithin t n { root, extension, stage } = route.at root ∧
      traceWithin t' n { root := root', extension, stage := stage' } = route.at root' := by
  induction n generalizing stage stage' with
  | zero => exact ⟨{}, List.forall_mem_nil _, rfl, rfl⟩
  | succ n ih =>
    obtain ⟨event, event', next, next', hstep, hstep', hevent, hnext⟩ := hs.step h extension
    obtain ⟨route, hshown, htrace, htrace'⟩ := ih hnext
    rw [traceWithin, traceWithin, hstep, hstep']
    cases hevent with
    | moved => exact ⟨route, hshown, htrace, htrace'⟩
    | @found names hnames =>
      refine ⟨{ route with found := names :: route.found },
        List.forall_mem_cons.mpr ⟨hnames, hshown⟩, ?_, ?_⟩
      · dsimp only
        rw [htrace]
        rfl
      · dsimp only
        rw [htrace']
        rfl
    | ended => exact ⟨{}, List.forall_mem_nil _, rfl, rfl⟩
    | failed names fault =>
      exact ⟨{ failure := some (names, fault) }, List.forall_mem_nil _, rfl, rfl⟩

/-- More steps than the bound allows for add nothing to a trace. -/
private theorem traceWithin_of_bound_le {extension : String} {n : Nat} (h : bound t ≤ n) :
    traceWithin t n { root, extension } = trace t root extension := by
  obtain ⟨k, rfl⟩ := Nat.exists_eq_add_of_le h
  have hend := (follows_fresh t root extension).2
  rw [trace, traceWithin_eq, traceWithin_eq, List.replicate_add, deedsThrough_append,
    ofDeeds_append_of_finished hend]

/-- **Trees that list alike have one route.** -/
theorem exists_route (h : t.ListsAlike t' root root') (extension : String) :
    ∃ route : Route, (∀ names ∈ route.found, t.Shows root names) ∧
      trace t root extension = route.at root ∧ trace t' root' extension = route.at root' := by
  -- both walks have ended after the greater of the two bounds
  rw [← traceWithin_of_bound_le (Nat.le_max_left (bound t) (bound t')),
    ← traceWithin_of_bound_le (Nat.le_max_right (bound t) (bound t'))]
  exact Stage.Abreast.fresh.exists_route h extension _

end Walk

end Rulebook
