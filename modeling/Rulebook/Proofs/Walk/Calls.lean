import Rulebook.Proofs.Walk.Deeds
import Rulebook.Proofs.Walk.Itinerary

/-!
# Calls and traces of a walk

A call of `next` goes on for as many steps as it takes to have something to report, and a trace goes
on to the end, but neither makes more steps than a bound allows for. The itinerary shows that the
bound of a call is never too small: a move that does not end the walk shortens what is ahead.

**Main facts.** `Move.toGo_lt`: a move brings the walk nearer to its end. `call_eq_deedsThrough`: a
call of `next` is a number of steps on one tree, and is never cut short. `traceWithin_eq`: a trace
is what the deeds of its steps say.
-/

namespace Rulebook.Walk

open FileTree (Fault)

/-- The listings on the way to the next report, in at most `bound` steps. -/
def listingsWithin (t : FileTree) : Nat → Walk → List Deed
  | 0, _ => []
  | bound + 1, w =>
    match w.step t with
    | (.moved, w') => w.listing t ++ listingsWithin t bound w'
    | _ => w.listing t

/-- The deeds of one call of `next`: the listings on the way, and what it reports. -/
def call (t : FileTree) (w : Walk) : List Deed :=
  w.listingsWithin t (w.nextBound t) ++ [.reported (w.next t).1]

/-- The deeds of a call of `next` on each of some trees. -/
def calls : List FileTree → Walk → List Deed
  | [], _ => []
  | t :: ts, w => w.call t ++ calls ts (w.next t).2

variable {t : FileTree} {w w' : Walk} {event : Event} {ds : List Deed}

/-! ### Moves along the itinerary -/

/-- The number of steps ahead of the walk that are no report of its end. -/
def toGo (t : FileTree) (w : Walk) : Nat :=
  match w.stage with
  | .fresh => (w.itinerary t).length + 1
  | _ => (w.itinerary t).length

theorem itinerary_begin (hs : w.stage = .fresh) (h : t.isFolder w.root = true) :
    w.itinerary t = { w with stage := .active [] [w.root] }.itinerary t := by
  rw [itinerary, itinerary, hs]
  simp [h]

theorem itinerary_found {path : Path} {ready pending : List Path}
    (hs : w.stage = .active (path :: ready) pending) :
    w.itinerary t = .file path :: { w with stage := .active ready pending }.itinerary t := by
  rw [itinerary, itinerary, hs]
  rfl

theorem itinerary_entered {folder : Path} {pending : List Path} {entries : List (String × Bool)}
    (hs : w.stage = .active [] (folder :: pending)) (h : t.list folder = .ok entries) :
    w.itinerary t = .folder folder none ::
      { w with
        stage := .active (filesIn w.extension folder entries)
          (foldersIn folder entries ++ pending) }.itinerary t := by
  rw [itinerary, itinerary, hs]
  dsimp only
  rw [List.map_nil, List.nil_append, List.flatMap_cons, stopsAt_of_list h, List.flatMap_append,
    List.cons_append, List.append_assoc]

theorem itinerary_refused {folder : Path} {pending : List Path} {fault : Fault}
    (hs : w.stage = .active [] (folder :: pending)) (h : t.list folder = .error fault) :
    ∃ rest, w.itinerary t = .folder folder (some fault) :: rest := by
  obtain ⟨rest, hrest⟩ := stopsAt_of_list_error h w.extension
  rw [itinerary, hs]
  dsimp only
  rw [List.map_nil, List.nil_append, List.flatMap_cons, hrest]
  exact ⟨_, rfl⟩

theorem itinerary_ended (hs : w.stage = .active [] []) : w.itinerary t = [] := by
  rw [itinerary, hs]
  rfl

theorem itinerary_idle (hs : w.stage = .finished) : w.itinerary t = [] := by
  rw [itinerary, hs]

/-- A step that does not end the walk brings it nearer to its end. -/
theorem Move.toGo_lt (h : Move t w event ds w') (hne : w'.stage ≠ .finished) :
    w'.toGo t < w.toGo t := by
  cases h with
  | begin hs h =>
    rw [toGo, toGo, hs, itinerary_begin hs h]
    exact Nat.lt_succ_self _
  | found hs =>
    rw [toGo, toGo, hs, itinerary_found hs]
    exact Nat.lt_succ_self _
  | entered hs h =>
    rw [toGo, toGo, hs, itinerary_entered hs h]
    exact Nat.lt_succ_self _
  | absent => exact absurd rfl hne
  | refused => exact absurd rfl hne
  | ended => exact absurd rfl hne
  | idle hs => exact absurd hs hne

/-- There are never more steps to go than the bounds allow for. -/
private theorem toGo_le (t : FileTree) (w : Walk) :
    w.toGo t ≤
      match w.stage with
      | .fresh => t.size + 1
      | .active ready pending => ready.length + pending.length * t.size
      | .finished => 0 := by
  rw [toGo, itinerary]
  match w.stage with
  | .fresh =>
    dsimp only
    split
    · exact Nat.succ_le_succ (length_stopsAt_le _ _ _)
    · exact Nat.succ_le_succ (Nat.zero_le _)
  | .active ready pending =>
    have h := length_flatMap_stopsAt_le t w.extension pending
    dsimp only
    rw [List.length_append, List.length_map]
    omega
  | .finished => exact Nat.le_refl _

/-! ### Calls -/

private theorem Move.stage_ne_finished (h : Move t w .moved ds w') : w'.stage ≠ .finished := by
  cases h <;> exact Stage.noConfusion

private theorem nextWithin_of_moved (h : (w.step t).1 = .moved) (bound : Nat) :
    w.nextWithin t (bound + 1) = (w.step t).2.nextWithin t bound ∧
      w.listingsWithin t (bound + 1) =
        w.listing t ++ (w.step t).2.listingsWithin t bound := by
  rw [nextWithin, listingsWithin]
  match hstep : w.step t, h with
  | (.moved, w'), _ => exact ⟨rfl, rfl⟩

private theorem nextWithin_of_ne_moved (h : (w.step t).1 ≠ .moved) (bound : Nat) :
    w.nextWithin t (bound + 1) = w.step t ∧ w.listingsWithin t (bound + 1) = w.listing t := by
  rw [nextWithin, listingsWithin]
  match hstep : w.step t, h with
  | (.found path, w'), _ => exact ⟨rfl, rfl⟩
  | (.ended, w'), _ => exact ⟨rfl, rfl⟩
  | (.failed problem, w'), _ => exact ⟨rfl, rfl⟩

/-- A call that ends with its first step. -/
private theorem call_of_ne_moved (h : (w.step t).1 ≠ .moved) (bound : Nat) :
    w.listingsWithin t (bound + 1) ++ [.reported (w.nextWithin t (bound + 1)).1] =
        w.deedsThrough [t] ∧
      (w.nextWithin t (bound + 1)).2 = w.stepThrough [t] := by
  obtain ⟨hnext, hlist⟩ := nextWithin_of_ne_moved h bound
  have hreport : (w.step t).1.report = [.reported (w.step t).1] := by
    match (w.step t).1, h with
    | .found path, _ => rfl
    | .ended, _ => rfl
    | .failed problem, _ => rfl
  rw [hnext, hlist, deedsThrough, deedsThrough, deeds, hreport, List.append_nil]
  exact ⟨rfl, rfl⟩

private theorem nextWithin_eq_stepThrough {bound : Nat} (h : w.toGo t < bound) :
    ∃ n, w.listingsWithin t bound ++ [.reported (w.nextWithin t bound).1] =
        w.deedsThrough (List.replicate n t) ∧
      (w.nextWithin t bound).2 = w.stepThrough (List.replicate n t) := by
  induction bound generalizing w with
  | zero => exact absurd h (Nat.not_lt_zero _)
  | succ bound ih =>
    by_cases hm : (w.step t).1 = .moved
    · -- a mere move comes nearer to the end, so that what is left of the bound is enough
      obtain ⟨hnext, hlist⟩ := nextWithin_of_moved hm bound
      have hmove := hm ▸ move_step t w
      have hlt := hmove.toGo_lt hmove.stage_ne_finished
      obtain ⟨n, hdeeds, hwalk⟩ := ih (Nat.lt_of_lt_of_le hlt (Nat.le_of_lt_succ h))
      refine ⟨n + 1, ?_, ?_⟩
      · rw [hnext, hlist, List.append_assoc, hdeeds, List.replicate_succ, deedsThrough, deeds, hm]
        simp [Event.report]
      · rw [hnext, hwalk, List.replicate_succ, stepThrough]
    · exact ⟨1, call_of_ne_moved hm bound⟩

/-- **A call is a number of steps on one tree.** It is never cut short: the bound on its steps is
more than there are to go. -/
theorem call_eq_deedsThrough (t : FileTree) (w : Walk) :
    ∃ n, w.call t = w.deedsThrough (List.replicate n t) ∧
      (w.next t).2 = w.stepThrough (List.replicate n t) := by
  have hle := toGo_le t w
  rw [call, next, nextBound, pendingCount]
  match hs : w.stage with
  | .fresh =>
    rw [hs] at hle
    exact nextWithin_eq_stepThrough (by dsimp only at hle ⊢; omega)
  | .active [] pending =>
    rw [hs] at hle
    have hmul : pending.length * t.size ≤ pending.length * (t.size + 1) :=
      Nat.mul_le_mul_left _ (Nat.le_succ _)
    exact nextWithin_eq_stepThrough (by dsimp only [List.length_nil] at hle ⊢; omega)
  | .active (path :: ready) pending =>
    -- what is ready is found at once
    have hm : (w.step t).1 ≠ .moved := by rw [step, hs]; exact Event.noConfusion
    exact ⟨1, call_of_ne_moved hm _⟩
  | .finished =>
    rw [hs] at hle
    exact nextWithin_eq_stepThrough (by dsimp only at hle ⊢; omega)

/-- Calls on some trees are steps on these trees. -/
theorem calls_eq_deedsThrough (ts : List FileTree) (w : Walk) :
    ∃ us, (∀ u ∈ us, u ∈ ts) ∧ w.calls ts = w.deedsThrough us := by
  induction ts generalizing w with
  | nil => exact ⟨[], List.forall_mem_nil _, rfl⟩
  | cons t ts ih =>
    obtain ⟨n, hcall, hnext⟩ := call_eq_deedsThrough t w
    obtain ⟨us, hmem, hus⟩ := ih (w.next t).2
    refine ⟨List.replicate n t ++ us, List.forall_mem_append.mpr ⟨?_, ?_⟩, ?_⟩
    · exact fun u hu => List.eq_of_mem_replicate hu ▸ List.mem_cons_self
    · exact fun u hu => List.mem_cons_of_mem _ (hmem u hu)
    · rw [calls, hus, hcall, hnext, deedsThrough_append]

/-! ### Traces -/

/-- What the deeds of some steps say: the files found, and the first failure. -/
def Trace.ofDeeds (ds : List Deed) : Trace :=
  { found := foundIn ds, failure := ds.findSome? Deed.failure? }

/-- After its end a walk adds nothing to its trace. -/
theorem ofDeeds_append_of_finished (hs : w.stage = .finished) (ds : List Deed)
    (ts : List FileTree) :
    Trace.ofDeeds (ds ++ w.deedsThrough ts) = Trace.ofDeeds ds := by
  obtain ⟨hfound, -, hfailure⟩ := quiet_of_finished hs ts
  rw [Trace.ofDeeds, Trace.ofDeeds, foundIn_append, hfound, List.append_nil, List.findSome?_append,
    hfailure, Option.or_none]

/-- A trace is what the deeds of its steps say. -/
theorem traceWithin_eq (t : FileTree) (bound : Nat) (w : Walk) :
    w.traceWithin t bound = Trace.ofDeeds (w.deedsThrough (List.replicate bound t)) := by
  induction bound generalizing w with
  | zero => rfl
  | succ bound ih =>
    have hmove := move_step t w
    rw [traceWithin, List.replicate_succ, deedsThrough]
    generalize w.deeds t = ds at hmove ⊢
    generalize w.step t = result at hmove ⊢
    obtain ⟨event, w'⟩ := result
    cases hmove with
    | begin => exact ih _
    | found => dsimp only; rw [ih]; rfl
    | entered => dsimp only; rw [ih]; rfl
    -- the trace stops here, and the steps that are left add nothing to the deeds
    | absent => dsimp only; rw [ofDeeds_append_of_finished rfl]; rfl
    | refused => dsimp only; rw [ofDeeds_append_of_finished rfl]; rfl
    | ended => dsimp only; rw [ofDeeds_append_of_finished rfl]; rfl
    | idle hs => dsimp only; rw [ofDeeds_append_of_finished hs]; rfl

/-- The failure of a trace is that of a folder that cannot be listed. -/
theorem exists_list_error_of_failure {root : Path} {extension : String} {problem : Problem}
    (h : (trace t root extension).failure = some problem) :
    ∃ folder fault, t.list folder = .error fault ∧
      problem = folderProblem root folder fault := by
  rw [trace, traceWithin_eq] at h
  obtain ⟨d, hd, hproblem⟩ := List.exists_of_findSome?_eq_some h
  obtain rfl : d = .reported (.failed problem) := by
    match d, hproblem with
    | .reported (.failed _), hproblem => exact congrArg _ (congrArg _ (Option.some.inj hproblem))
  obtain ⟨u, hu, hproblem⟩ := failed_of_mem_deedsThrough hd
  exact List.eq_of_mem_replicate hu ▸ hproblem

end Rulebook.Walk
