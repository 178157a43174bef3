import Rulebook.Proofs.Path.Covering
import Rulebook.Proofs.Walk.Calls
import Mathlib.Data.List.Nodup

/-!
# Walks on a changing tree

Between two steps of a walk the tree may change in any way. A folder that is pending may be gone
when the walk comes to it, or may be a link by then to a folder that was listed before. So nothing
is known of what the walk will find there, but it is known **where** it will look: below the paths
that are pending. No two of these lie in one another, and nothing that was found or listed before
lies in one of them.

`Orderly` says this of the deeds of a walk and of what it has before it. Every move keeps it,
whatever the tree is, because the names of one listing are different and each stands for one
entry only.

**Main facts.** `Orderly.move`: a move keeps the order. `orderly_deedsThrough`: the order holds
after any steps on any trees. `calls_on_changing_tree`: what this says of calls of `next`.
-/

namespace Rulebook.Walk

open FileTree (Fault)

/-! ### What one listing says -/

section Listing

variable {extension : String} {folder p q : Path} {entries : List (String × Bool)}

theorem mem_filesIn : p ∈ filesIn extension folder entries ↔
    ∃ name, (name, false) ∈ entries ∧ hasEnding extension name = true ∧ p = folder.child name := by
  simp only [filesIn, List.mem_map, List.mem_filter, Bool.and_eq_true, Bool.not_eq_true']
  constructor
  · rintro ⟨⟨name, kind⟩, ⟨hmem, rfl, hend⟩, rfl⟩
    exact ⟨name, hmem, hend, rfl⟩
  · rintro ⟨name, hmem, hend, rfl⟩
    exact ⟨(name, false), ⟨hmem, rfl, hend⟩, rfl⟩

theorem mem_foldersIn : p ∈ foldersIn folder entries ↔
    ∃ name, (name, true) ∈ entries ∧ p = folder.child name := by
  simp only [foldersIn, List.mem_map, List.mem_filter]
  constructor
  · rintro ⟨⟨name, kind⟩, ⟨hmem, rfl⟩, rfl⟩
    exact ⟨name, hmem, rfl⟩
  · rintro ⟨name, hmem, rfl⟩
    exact ⟨(name, true), ⟨hmem, rfl⟩, rfl⟩

private theorem nodup_filesIn (hn : (entries.map Prod.fst).Nodup) :
    (filesIn extension folder entries).Nodup := by
  have hsub : ((entries.filter fun e => !e.2 && hasEnding extension e.1).map Prod.fst).Nodup :=
    (List.filter_sublist.map Prod.fst).nodup hn
  have hmap := List.Nodup.map folder.child_injective hsub
  rwa [List.map_map] at hmap

/-- The folders of one listing are apart. -/
private theorem pairwise_apart_foldersIn (hn : (entries.map Prod.fst).Nodup) :
    (foldersIn folder entries).Pairwise Path.Apart := by
  have hsub : ((entries.filter fun e => e.2).map Prod.fst).Nodup :=
    (List.filter_sublist.map Prod.fst).nodup hn
  refine List.pairwise_map.mpr (List.Pairwise.imp ?_ (List.pairwise_map.mp hsub))
  exact fun hne => Path.apart_child_child hne

/-- In one listing no name stands for two entries. -/
theorem kind_unique {name : String} {kind kind' : Bool} (hn : (entries.map Prod.fst).Nodup)
    (h : (name, kind) ∈ entries) (h' : (name, kind') ∈ entries) : kind = kind' :=
  congrArg Prod.snd (List.inj_on_of_nodup_map hn h h' rfl)

/-- What is found by one listing lies in none of its folders. -/
private theorem not_covers_of_mem_foldersIn (hn : (entries.map Prod.fst).Nodup)
    (hq : q ∈ foldersIn folder entries) (hp : p ∈ filesIn extension folder entries) :
    ¬ q.Covers p := by
  obtain ⟨name, hname, -, rfl⟩ := mem_filesIn.mp hp
  obtain ⟨name', hname', rfl⟩ := mem_foldersIn.mp hq
  refine (Path.apart_child_child ?_).1
  rintro rfl
  exact Bool.false_ne_true (kind_unique hn hname hname')

end Listing

/-! ### Order -/

/-- The paths that are ready to be found. -/
def ready (w : Walk) : List Path :=
  match w.stage with
  | .active ready _ => ready
  | _ => []

/-- The folders that are pending, where the root counts before the walk begins. -/
def pending (w : Walk) : List Path :=
  match w.stage with
  | .fresh => [w.root]
  | .active _ pending => pending
  | .finished => []

/-- Where a file has been seen: in the listing of a folder, as an entry that is no folder and whose
name ends in `extension`. -/
def SeenIn (extension : String) (ds : List Deed) (p : Path) : Prop :=
  ∃ folder entries name, Deed.listed folder (.ok entries) ∈ ds ∧ (name, false) ∈ entries ∧
    hasEnding extension name = true ∧ p = folder.child name

/-- Every file that is found has been seen before. -/
def Foreseen (extension : String) (ds : List Deed) : Prop :=
  ∀ before p after, ds = before ++ .reported (.found p) :: after → SeenIn extension before p

/-- What holds of the deeds of a walk, and of what it has before it. -/
structure Orderly (ds : List Deed) (w : Walk) : Prop where
  /-- Nothing is found twice, be it found already or ready to be found. -/
  nodup_found : (foundIn ds ++ w.ready).Nodup
  /-- Nothing is listed twice. -/
  nodup_listed : (listedIn ds).Nodup
  /-- No folder that is pending lies in another one. -/
  apart : w.pending.Pairwise Path.Apart
  /-- Nothing that has been listed or seen lies in a folder that is pending. -/
  clear : ∀ folder ∈ w.pending, ∀ p ∈ listedIn ds ++ (foundIn ds ++ w.ready), ¬ folder.Covers p
  /-- What is ready has been seen. -/
  seen : ∀ p ∈ w.ready, SeenIn w.extension ds p
  /-- What has been found had been seen. -/
  foreseen : Foreseen w.extension ds
  /-- Every folder lies at or below the root. -/
  below : ∀ folder ∈ listedIn ds ++ w.pending,
    ∃ names, (∀ name ∈ names, Entry.isName name = true) ∧ folder = w.root.append names

theorem SeenIn.append {extension : String} {ds : List Deed} {p : Path} (h : SeenIn extension ds p)
    (ds' : List Deed) : SeenIn extension (ds ++ ds') p := by
  obtain ⟨folder, entries, name, hmem, h⟩ := h
  exact ⟨folder, entries, name, List.mem_append_left _ hmem, h⟩

/-- More deeds are foreseen when each file that they find has been seen by then. -/
private theorem Foreseen.append {extension : String} {ds ds' : List Deed}
    (h : Foreseen extension ds)
    (h' : ∀ before p after, ds' = before ++ .reported (.found p) :: after →
      SeenIn extension (ds ++ before) p) : Foreseen extension (ds ++ ds') := by
  intro before p after heq
  rcases List.append_eq_append_iff.mp heq with ⟨mid, rfl, hmid⟩ | ⟨mid, hds, hmid⟩
  · exact h' mid p after hmid
  · cases mid with
    | nil =>
      rw [List.append_nil] at hds
      have := h' [] p after hmid.symm
      rwa [List.append_nil, hds] at this
    | cons d mid =>
      obtain ⟨rfl, -⟩ := List.cons.inj hmid
      exact h before p mid hds

/-! ### Moves keep the order -/

section Moves

variable {t : FileTree} {w w' : Walk} {event : Event} {ds ds' : List Deed}

/-- A walk that has not begun is in order. -/
theorem orderly_fresh (root : Path) (extension : String) : Orderly [] { root, extension } where
  nodup_found := List.nodup_nil
  nodup_listed := List.nodup_nil
  apart := List.pairwise_singleton _ _
  clear := fun _ _ p hp => absurd hp List.not_mem_nil
  seen := fun p hp => absurd hp List.not_mem_nil
  foreseen := fun before p after heq => by simp at heq
  below := by
    intro folder hfolder
    obtain rfl := List.mem_singleton.mp hfolder
    exact ⟨[], List.forall_mem_nil _, (Path.append_nil _).symm⟩

/-- Nothing that has been listed is pending. -/
private theorem Orderly.not_mem_listed (h : Orderly ds w) {folder : Path}
    (hmem : folder ∈ w.pending) : folder ∉ listedIn ds := fun hlisted =>
  h.clear folder hmem folder (List.mem_append_left _ hlisted) (Path.Covers.refl folder)

/-- Deeds that find no file are foreseen. -/
private theorem Foreseen.append_of_not_found {extension : String} (h : Foreseen extension ds)
    (hfound : foundIn ds' = []) : Foreseen extension (ds ++ ds') := by
  refine h.append fun before p after heq => ?_
  rw [heq, foundIn_append] at hfound
  exact absurd (List.append_eq_nil_iff.mp hfound).2 (List.cons_ne_nil _ _)

/-- A walk may end at any time. -/
private theorem Orderly.finish (h : Orderly ds w) (hfound : foundIn ds' = [])
    (hlisted : (listedIn ds').Sublist w.pending) :
    Orderly (ds ++ ds') { w with stage := .finished } where
  nodup_found := by
    rw [foundIn_append, hfound, List.append_nil]
    exact List.append_nil _ ▸ h.nodup_found.of_append_left
  nodup_listed := by
    rw [listedIn_append]
    refine List.nodup_append.mpr ⟨h.nodup_listed, hlisted.nodup (h.apart.imp Path.Apart.ne), ?_⟩
    rintro p hp q hq rfl
    exact h.not_mem_listed (hlisted.mem hq) hp
  apart := List.Pairwise.nil
  clear := fun folder hfolder => absurd hfolder List.not_mem_nil
  seen := fun p hp => absurd hp List.not_mem_nil
  foreseen := h.foreseen.append_of_not_found hfound
  below := by
    intro folder hfolder
    rw [listedIn_append] at hfolder
    refine h.below folder ?_
    rcases List.mem_append.mp ((List.append_nil _ ▸ hfolder :)) with hd | hd
    · exact List.mem_append_left _ hd
    · exact List.mem_append_right _ (hlisted.mem hd)

/-- What is ready may be found. -/
private theorem Orderly.find {path : Path} {ready pending : List Path} (h : Orderly ds w)
    (hs : w.stage = .active (path :: ready) pending) :
    Orderly (ds ++ [.reported (.found path)]) { w with stage := .active ready pending } := by
  obtain ⟨root, extension, stage⟩ := w
  obtain rfl : stage = .active (path :: ready) pending := hs
  have hfound : foundIn (ds ++ [.reported (.found path)]) ++ ready =
      foundIn ds ++ (path :: ready) := by
    rw [foundIn_append, List.append_assoc]
    rfl
  have hlisted : listedIn (ds ++ [.reported (.found path)]) = listedIn ds := by
    rw [listedIn_append]
    exact List.append_nil _
  constructor
  case nodup_found => exact hfound ▸ h.nodup_found
  case nodup_listed => exact hlisted ▸ h.nodup_listed
  case apart => exact h.apart
  case clear =>
    intro folder hfolder p hp
    rw [hlisted] at hp
    exact h.clear folder hfolder p (hfound ▸ hp)
  case seen => exact fun p hp => (h.seen p (List.mem_cons_of_mem _ hp)).append _
  case foreseen =>
    refine h.foreseen.append fun before p after heq => ?_
    obtain ⟨rfl, hp, -⟩ := eq_of_singleton_eq heq
    obtain rfl := Event.found.inj (Deed.reported.inj hp)
    rw [List.append_nil]
    exact h.seen p List.mem_cons_self
  case below =>
    rw [hlisted]
    exact h.below

/-- A folder that is pending may be listed, whatever stands there by now. -/
private theorem Orderly.enter {folder : Path} {pending : List Path}
    {entries : List (String × Bool)} (h : Orderly ds w)
    (hs : w.stage = .active [] (folder :: pending)) (hlist : t.list folder = .ok entries) :
    Orderly (ds ++ [.listed folder (.ok entries)])
      { w with
        stage := .active (filesIn w.extension folder entries)
          (foldersIn folder entries ++ pending) } := by
  obtain ⟨root, extension, stage⟩ := w
  obtain rfl : stage = .active [] (folder :: pending) := hs
  obtain ⟨hnodup, hnames⟩ := FileTree.nodup_of_list hlist
  obtain ⟨hapart, hpending⟩ := List.pairwise_cons.mp h.apart
  have hfound : foundIn (ds ++ [.listed folder (.ok entries)]) = foundIn ds := by
    rw [foundIn_append]
    exact List.append_nil _
  have hlisted : listedIn (ds ++ [.listed folder (.ok entries)]) = listedIn ds ++ [folder] :=
    listedIn_append _ _
  -- what was recorded before lies nowhere below the folder that is listed now
  have hclear : ∀ p ∈ listedIn ds ++ foundIn ds, ¬ folder.Covers p := fun p hp =>
    h.clear folder List.mem_cons_self p (by simpa [Walk.ready] using hp)
  constructor
  case nodup_found =>
    rw [hfound]
    refine List.nodup_append.mpr ⟨h.nodup_found.of_append_left, nodup_filesIn hnodup, ?_⟩
    rintro p hp q hq rfl
    obtain ⟨name, -, -, rfl⟩ := mem_filesIn.mp hq
    exact hclear _ (List.mem_append_right _ hp) (Path.covers_child folder name)
  case nodup_listed =>
    rw [hlisted]
    exact List.nodup_append.mpr ⟨h.nodup_listed, List.pairwise_singleton _ _, fun p hp q hq =>
      List.mem_singleton.mp hq ▸ ne_of_mem_of_not_mem hp (h.not_mem_listed List.mem_cons_self)⟩
  case apart =>
    refine List.pairwise_append.mpr ⟨pairwise_apart_foldersIn hnodup, hpending, ?_⟩
    intro p hp q hq
    obtain ⟨name, -, rfl⟩ := mem_foldersIn.mp hp
    exact (hapart q hq).child name
  case clear =>
    rw [hfound, hlisted]
    intro q hq p hp
    have hp : p ∈ listedIn ds ++ foundIn ds ∨ p = folder ∨
        p ∈ filesIn extension folder entries := by
      simp only [List.mem_append, List.mem_singleton, Walk.ready] at hp ⊢
      tauto
    -- a folder of the listing lies in the folder that was clear; one that was pending is apart
    rcases List.mem_append.mp hq with hnew | hold
    · obtain ⟨name, -, rfl⟩ := mem_foldersIn.mp hnew
      rcases hp with hp | rfl | hp
      · exact Path.not_child_covers_of_not (hclear p hp) name
      · exact Path.not_child_covers p name
      · exact not_covers_of_mem_foldersIn hnodup hnew hp
    · rcases hp with hp | rfl | hp
      · exact h.clear q (List.mem_cons_of_mem _ hold) p (by simpa [Walk.ready] using hp)
      · exact (hapart q hold).2
      · obtain ⟨name, -, -, rfl⟩ := mem_filesIn.mp hp
        exact ((hapart q hold).child name).2
  case seen =>
    intro p hp
    obtain ⟨name, hname, hend, rfl⟩ := mem_filesIn.mp hp
    exact ⟨folder, entries, name, List.mem_append_right _ List.mem_cons_self, hname, hend, rfl⟩
  case foreseen => exact h.foreseen.append_of_not_found rfl
  case below =>
    rw [hlisted]
    intro q hq
    have hq : q ∈ listedIn ds ++ folder :: pending ∨ q ∈ foldersIn folder entries := by
      simp only [List.mem_append, List.mem_cons, List.not_mem_nil, Walk.pending] at hq ⊢
      tauto
    rcases hq with hq | hq
    · exact h.below q hq
    · obtain ⟨name, hname, rfl⟩ := mem_foldersIn.mp hq
      obtain ⟨names, hvalid, heq⟩ := h.below folder (List.mem_append_right _ List.mem_cons_self)
      refine ⟨names ++ [name], ?_, by rw [heq, Path.append_concat]⟩
      exact List.forall_mem_append.mpr ⟨hvalid, List.forall_mem_singleton.mpr (hnames _ hname)⟩

/-- **A move keeps the order**, whatever the tree is. -/
theorem Orderly.move (h : Orderly ds w) (hm : Move t w event ds' w') :
    Orderly (ds ++ ds') w' := by
  cases hm with
  | begin hs _ =>
    obtain ⟨root, extension, stage⟩ := w
    obtain rfl : stage = .fresh := hs
    rw [List.append_nil]
    exact ⟨h.nodup_found, h.nodup_listed, h.apart, h.clear, h.seen, h.foreseen, h.below⟩
  | absent => exact h.finish rfl (List.nil_sublist _)
  | found hs => exact h.find hs
  | entered hs hlist => exact h.enter hs hlist
  | refused hs _ =>
    refine h.finish rfl ?_
    rw [Walk.pending, hs]
    exact (List.nil_sublist _).cons_cons _
  | ended => exact h.finish rfl (List.nil_sublist _)
  | idle hs =>
    have hfinish : Orderly (ds ++ [.reported .ended]) { w with stage := .finished } :=
      h.finish rfl (List.nil_sublist _)
    obtain ⟨root, extension, stage⟩ := w
    obtain rfl : stage = .finished := hs
    exact hfinish

/-- The order holds after any steps on any trees. -/
theorem orderly_deedsThrough (h : Orderly ds w) (ts : List FileTree) :
    Orderly (ds ++ w.deedsThrough ts) (w.stepThrough ts) := by
  induction ts generalizing ds w with
  | nil => exact (List.append_nil ds).symm ▸ h
  | cons t ts ih =>
    rw [deedsThrough, ← List.append_assoc]
    exact ih (h.move (move_step t w))

end Moves

/-- **A walk on a changing tree finds nothing twice.** Let `next` be called once on each of some
trees, which need not have anything to do with one another. Then all files that are found are
different, and so are all folders that are listed. Every file that is found lies below the root;
its folder was listed before, on one of the trees, and there the file was an entry that is no
folder and whose name ends in the extension. After an end or a failure every report is of the
end. -/
theorem calls_on_changing_tree (root : Path) (extension : String) (trees : List FileTree) :
    let ds := ({ root, extension } : Walk).calls trees
    (foundIn ds).Nodup ∧
      (listedIn ds).Nodup ∧
      (∀ before p after, ds = before ++ .reported (.found p) :: after →
        ∃ t ∈ trees, ∃ names folder entries name,
          folder = root.append names ∧
          p = folder.child name ∧
          (∀ segment ∈ names ++ [name], Entry.isName segment = true) ∧
          t.list folder = .ok entries ∧
          Deed.listed folder (.ok entries) ∈ before ∧
          (name, false) ∈ entries ∧
          hasEnding extension name = true) ∧
      ∀ before event after, ds = before ++ .reported event :: after → event.isEnd = true →
        ∀ d ∈ after, d = .reported .ended := by
  intro ds
  obtain ⟨us, hus, (hds : ds = _)⟩ := calls_eq_deedsThrough trees { root, extension }
  have h : Orderly ds (stepThrough us { root, extension }) := by
    rw [hds]
    exact orderly_deedsThrough (orderly_fresh root extension) us
  refine ⟨h.nodup_found.of_append_left, h.nodup_listed, ?_, ?_⟩
  · intro before p after heq
    obtain ⟨folder, entries, name, hlisted, hname, hend, rfl⟩ := h.foreseen before p after heq
    have hmem : Deed.listed folder (.ok entries) ∈ ds := heq ▸ List.mem_append_left _ hlisted
    obtain ⟨t, ht, hlist⟩ := list_of_mem_deedsThrough (hds ▸ hmem)
    obtain ⟨names, hvalid, hfolder⟩ := h.below folder
      (List.mem_append_left _ (List.mem_filterMap.mpr ⟨_, hmem, rfl⟩))
    refine ⟨t, hus t ht, names, folder, entries, name, ?_, rfl, ?_, hlist, hlisted, hname, ?_⟩
    · rw [hfolder, root_stepThrough]
    · exact List.forall_mem_append.mpr
        ⟨hvalid, List.forall_mem_singleton.mpr ((FileTree.nodup_of_list hlist).2 _ hname)⟩
    · rwa [extension_stepThrough] at hend
  · intro before event after heq hevent
    exact eq_ended_of_isEnd (hds ▸ heq) hevent

end Rulebook.Walk
