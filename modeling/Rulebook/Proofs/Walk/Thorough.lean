import Rulebook.Proofs.FileTree.Reached
import Rulebook.Proofs.Walk.Preorder

/-!
# A walk leaves nothing out

What a walk has seen in the listing of a folder it has found, or is about to find; and it lists
nothing but folders that it can reach, from listing to listing. On a tree that stays as it is this
holds after every move, so that at the end a walk has found just what it has seen.

**Main facts.** `Thorough.move`: a move leaves nothing out. `mem_found_trace_iff`: a trace finds
what the walk has seen. `exists_reaches_of_mem_listedIn`: a walk lists what it can reach.
-/

namespace Rulebook.Walk

/-- What holds of the deeds of a walk on one tree, and of what it has before it. -/
structure Thorough (t : FileTree) (ds : List Deed) (w : Walk) : Prop where
  /-- What has been seen is found, or ready to be found. -/
  found : ∀ p, SeenIn w.extension ds p → p ∈ foundIn ds ++ w.ready
  /-- Each folder is one that can be reached. -/
  reached : ∀ folder ∈ listedIn ds ++ w.pending,
    ∃ names, t.Reaches w.root names ∧ folder = w.root.append names

variable {t : FileTree} {w w' : Walk} {event : Event} {ds ds' : List Deed}

private theorem thorough_fresh (t : FileTree) (root : Path) (extension : String) :
    Thorough t [] { root, extension } where
  found := fun p ⟨_, _, _, hmem, _⟩ => absurd hmem List.not_mem_nil
  reached := by
    intro folder hfolder
    obtain rfl := List.mem_singleton.mp hfolder
    exact ⟨[], .root, (Path.append_nil _).symm⟩

/-- Deeds without a new listing show nothing new. -/
private theorem SeenIn.of_append {extension : String} {p : Path}
    (hquiet : ∀ folder entries, .listed folder (.ok entries) ∉ ds')
    (h : SeenIn extension (ds ++ ds') p) : SeenIn extension ds p := by
  obtain ⟨folder, entries, name, hmem, h⟩ := h
  rcases List.mem_append.mp hmem with hold | hnew
  · exact ⟨folder, entries, name, hold, h⟩
  · exact absurd hnew (hquiet folder entries)

/-- Nothing is left out where there is no new listing: what was ready is ready or found, and nothing
new is pending or listed. -/
private theorem Thorough.goOn {stage : Stage} (h : Thorough t ds w)
    (hquiet : ∀ folder entries, .listed folder (.ok entries) ∉ ds')
    (hready : ∀ p ∈ w.ready, p ∈ foundIn ds' ++ ready { w with stage })
    (hpending : ∀ p ∈ listedIn ds' ++ pending { w with stage }, p ∈ w.pending) :
    Thorough t (ds ++ ds') { w with stage } where
  found := by
    intro p hp
    rw [foundIn_append, List.append_assoc]
    rcases List.mem_append.mp (h.found p (hp.of_append hquiet)) with hfound | hw
    · exact List.mem_append_left _ hfound
    · exact List.mem_append_right _ (hready p hw)
  reached := by
    intro folder hfolder
    rw [listedIn_append, List.append_assoc] at hfolder
    rcases List.mem_append.mp hfolder with hlisted | hnew
    · exact h.reached folder (List.mem_append_left _ hlisted)
    · exact h.reached folder (List.mem_append_right _ (hpending folder hnew))

/-- What a listing shows is ready or pending. -/
private theorem Thorough.enter {folder : Path} {pending : List Path}
    {entries : List (String × Bool)} (h : Thorough t ds w)
    (hs : w.stage = .active [] (folder :: pending)) (hlist : t.list folder = .ok entries) :
    Thorough t (ds ++ [.listed folder (.ok entries)])
      { w with
        stage := .active (filesIn w.extension folder entries)
          (foldersIn folder entries ++ pending) } := by
  obtain ⟨root, extension, stage⟩ := w
  obtain rfl : stage = .active [] (folder :: pending) := hs
  constructor
  case found =>
    -- a file was seen before, or in the listing that is made now
    rintro p ⟨folder', entries', name, hmem, hname, hend, rfl⟩
    rw [foundIn_append]
    rcases List.mem_append.mp hmem with hold | hnew
    · have hfound := h.found _ ⟨folder', entries', name, hold, hname, hend, rfl⟩
      exact List.mem_append_left _ (List.mem_append_left _ (by simpa [ready] using hfound))
    · obtain ⟨rfl, hanswer⟩ := Deed.listed.inj (List.mem_singleton.mp hnew)
      obtain rfl := Except.ok.inj hanswer
      exact List.mem_append_right _ (mem_filesIn.mpr ⟨name, hname, hend, rfl⟩)
  case reached =>
    have hlisted : listedIn (ds ++ [.listed folder (.ok entries)]) = listedIn ds ++ [folder] :=
      listedIn_append _ _
    rw [hlisted]
    intro q hq
    have hq : q ∈ listedIn ds ++ folder :: pending ∨ q ∈ foldersIn folder entries := by
      simp only [List.mem_append, List.mem_cons, List.not_mem_nil, Walk.pending] at hq ⊢
      tauto
    rcases hq with hq | hq
    · exact h.reached q hq
    · obtain ⟨name, hname, rfl⟩ := mem_foldersIn.mp hq
      obtain ⟨names, hreach, hfolder⟩ :=
        h.reached folder (List.mem_append_right _ List.mem_cons_self)
      refine ⟨names ++ [name], .child hreach (hfolder ▸ hlist) hname, ?_⟩
      rw [hfolder, Path.append_concat]

/-- **A move leaves nothing out.** -/
theorem Thorough.move (h : Thorough t ds w) (hm : Move t w event ds' w') :
    Thorough t (ds ++ ds') w' := by
  cases hm with
  | begin hs _ => exact h.goOn (by simp) (by simp [ready, hs]) (by simp [pending, hs, listedIn])
  | absent hs _ => exact h.goOn (by simp) (by simp [ready, hs]) (List.forall_mem_nil _)
  | found hs =>
    refine h.goOn (by simp) (by simp [ready, hs, foundIn, Deed.found?]) fun p hp => ?_
    rw [pending, hs]
    exact hp
  | entered hs hlist => exact h.enter hs hlist
  | refused hs _ =>
    refine h.goOn (by simp) (by simp [ready, hs]) fun p hp => ?_
    obtain rfl := List.mem_singleton.mp hp
    rw [pending, hs]
    exact List.mem_cons_self
  | ended hs => exact h.goOn (by simp) (by simp [ready, hs]) (List.forall_mem_nil _)
  | idle hs =>
    have h' : Thorough t (ds ++ [.reported .ended]) { w with stage := .finished } :=
      h.goOn (by simp) (by simp [ready, hs]) (List.forall_mem_nil _)
    rwa [← hs] at h'

/-- Nothing is left out after any number of steps. -/
private theorem thorough_deedsThrough (h : Thorough t ds w) (n : Nat) :
    Thorough t (ds ++ w.deedsThrough (List.replicate n t))
      (w.stepThrough (List.replicate n t)) := by
  induction n generalizing ds w with
  | zero => exact (List.append_nil ds).symm ▸ h
  | succ n ih =>
    rw [List.replicate_succ, deedsThrough, ← List.append_assoc]
    exact ih (h.move (move_step t w))

section Trace

variable {root : Path} {extension : String}

/-- **A trace finds just what the walk has seen.** -/
theorem mem_found_trace_iff {p : Path} :
    p ∈ (trace t root extension).found ↔
      SeenIn extension (deedsThrough (List.replicate (bound t) t) { root, extension }) p := by
  have hthorough := thorough_deedsThrough (thorough_fresh t root extension) (bound t)
  have horder := orderly_deedsThrough (orderly_fresh root extension) (List.replicate (bound t) t)
  have hend := (follows_fresh t root extension).2
  have hfound := hthorough.found p
  have hforeseen := horder.foreseen
  rw [extension_stepThrough, List.nil_append] at hfound hforeseen
  rw [trace, traceWithin_eq]
  constructor
  · intro hp
    obtain ⟨before, after, heq⟩ := List.append_of_mem (mem_foundIn.mp hp)
    rw [heq]
    exact (hforeseen before p after heq).append _
  · intro hp
    rw [ready, hend, List.append_nil] at hfound
    exact hfound hp

/-- **A walk lists what it can reach.** -/
theorem exists_reaches_of_mem_listedIn {folder : Path}
    (h : folder ∈ listedIn (deedsThrough (List.replicate (bound t) t) { root, extension })) :
    ∃ names, t.Reaches root names ∧ folder = root.append names := by
  have hthorough := thorough_deedsThrough (thorough_fresh t root extension) (bound t)
  have hreached := hthorough.reached folder (List.mem_append_left _ h)
  rwa [root_stepThrough] at hreached

end Trace

end Rulebook.Walk
