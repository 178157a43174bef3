import Rulebook.FileTree.Edit
import Rulebook.Proofs.Walk.Changes

/-!
# A walk is a preorder

On a tree that stays as it is, a walk goes through the preorder of its root, up to the first folder
that cannot be listed, and comes to its end. The walk keeps a stack and the preorder does not; what
joins them is the itinerary, which every move shortens by the stop that the move makes.

**Main facts.** `follows_deedsThrough`: a walk follows its itinerary. `walk_is_preorder`: a walk
from a root goes through the preorder of the root.
-/

namespace Rulebook.Walk

open FileTree (Fault)

/-! ### What is in a preorder -/

section Members

variable {denied : List Location} {extension : String} {p q : Path} {here : Location}
  {children : List (String × Entry)}

private theorem mem_filesAmong : q ∈ filesAmong extension p children ↔
    ∃ name e, (name, e) ∈ children ∧ e.isFolder = false ∧ hasEnding extension name = true ∧
      q = p.child name := by
  simp only [filesAmong, List.mem_map, List.mem_filter, Bool.and_eq_true, Bool.not_eq_true']
  constructor
  · rintro ⟨⟨name, e⟩, ⟨hmem, hkind, hend⟩, rfl⟩
    exact ⟨name, e, hmem, hkind, hend, rfl⟩
  · rintro ⟨name, e, hmem, hkind, hend, rfl⟩
    exact ⟨(name, e), ⟨hmem, hkind, hend⟩, rfl⟩

private theorem mem_stopsOfAll {s : Stop} : s ∈ stopsOfAll denied extension p here children ↔
    ∃ name e, (name, e) ∈ children ∧
      s ∈ stopsOf denied extension (p.child name) (here ++ [name]) e := by
  induction children with
  | nil => simp [stopsOfAll]
  | cons child rest ih =>
    obtain ⟨name, e⟩ := child
    rw [stopsOfAll, List.mem_append, ih]
    constructor
    · rintro (h | ⟨name', e', hmem, h⟩)
      · exact ⟨name, e, List.mem_cons_self, h⟩
      · exact ⟨name', e', List.mem_cons_of_mem _ hmem, h⟩
    · rintro ⟨name', e', hmem, h⟩
      rcases List.mem_cons.mp hmem with heq | hmem
      · obtain ⟨rfl, rfl⟩ := Prod.mk.inj heq
        exact Or.inl h
      · exact Or.inr ⟨name', e', hmem, h⟩

/-- The folders of a preorder are those that names lead to, without links. -/
private theorem folder_mem_stopsOf {e : Entry} (he : e.IsSound) {fault : Option Fault} :
    .folder q fault ∈ stopsOf denied extension p here e ↔
      ∃ names children, e.descend? names = some (.folder children) ∧ q = p.append names ∧
        fault = if denied.contains (here ++ names) then some .accessDenied else none := by
  -- soundness has one hypothesis for each entry of a folder, just as the preorder has one part
  induction he generalizing p here with
  | file content =>
    refine iff_of_false List.not_mem_nil ?_
    rintro ⟨names, children, hd, -⟩
    exact Entry.descend?_ne_folder rfl hd
  | link target =>
    refine iff_of_false List.not_mem_nil ?_
    rintro ⟨names, children, hd, -⟩
    exact Entry.descend?_ne_folder rfl hd
  | folder nodup _ _ ih =>
    rw [stopsOf, List.mem_cons, List.mem_append, mem_stopsOfAll]
    constructor
    · rintro (heq | hfile | ⟨name, e, hmem, h⟩)
      · obtain ⟨rfl, rfl⟩ := Stop.folder.inj heq
        exact ⟨[], _, rfl, (Path.append_nil _).symm, by rw [List.append_nil]⟩
      · obtain ⟨path, -, heq⟩ := List.mem_map.mp hfile
        exact nomatch heq
      · obtain ⟨names, children, hd, rfl, rfl⟩ := (ih _ hmem).mp h
        refine ⟨name :: names, children, ?_, (Path.append_cons _ _ _).symm, ?_⟩
        · exact (Entry.descend?_cons_iff nodup).mpr ⟨e, hmem, hd⟩
        · rw [List.append_assoc, List.singleton_append]
    · rintro ⟨names, children', hd, rfl, rfl⟩
      cases names with
      | nil => exact Or.inl (by rw [Path.append_nil, List.append_nil])
      | cons name names =>
        obtain ⟨e, hmem, hd⟩ := (Entry.descend?_cons_iff nodup).mp hd
        refine Or.inr (Or.inr ⟨name, e, hmem, (ih _ hmem).mpr ⟨names, children', hd, ?_, ?_⟩⟩)
        · exact Path.append_cons _ _ _
        · rw [List.append_assoc, List.singleton_append]

/-- The files of a preorder are the entries that names lead to, without links, that are no folders
and whose names end in the extension. -/
private theorem file_mem_stopsOf {e : Entry} (he : e.IsSound) :
    .file q ∈ stopsOf denied extension p here e ↔
      ∃ names name e', e.descend? (names ++ [name]) = some e' ∧ e'.isFolder = false ∧
        hasEnding extension name = true ∧ q = (p.append names).child name := by
  induction he generalizing p here with
  | file content =>
    refine iff_of_false List.not_mem_nil ?_
    rintro ⟨names, name, e', hd, -⟩
    exact Entry.descend?_concat_ne rfl hd
  | link target =>
    refine iff_of_false List.not_mem_nil ?_
    rintro ⟨names, name, e', hd, -⟩
    exact Entry.descend?_concat_ne rfl hd
  | folder nodup _ _ ih =>
    rw [stopsOf, List.mem_cons, List.mem_append, mem_stopsOfAll]
    constructor
    · rintro (heq | hfile | ⟨name, e, hmem, h⟩)
      · exact nomatch heq
      · obtain ⟨path, hpath, heq⟩ := List.mem_map.mp hfile
        obtain rfl := Stop.file.inj heq
        obtain ⟨name, e, hmem, hkind, hend, rfl⟩ := mem_filesAmong.mp hpath
        refine ⟨[], name, e, ?_, hkind, hend, by rw [Path.append_nil]⟩
        exact (Entry.descend?_cons_iff nodup).mpr ⟨e, hmem, rfl⟩
      · obtain ⟨names, last, e', hd, hkind, hend, rfl⟩ := (ih _ hmem).mp h
        refine ⟨name :: names, last, e', ?_, hkind, hend, by rw [Path.append_cons]⟩
        exact (Entry.descend?_cons_iff nodup).mpr ⟨e, hmem, hd⟩
    · rintro ⟨names, last, e', hd, hkind, hend, rfl⟩
      cases names with
      | nil =>
        obtain ⟨e, hmem, hd⟩ := (Entry.descend?_cons_iff nodup).mp hd
        obtain rfl := Option.some.inj hd
        refine Or.inr (Or.inl (List.mem_map.mpr ⟨_, mem_filesAmong.mpr ?_, rfl⟩))
        exact ⟨last, e, hmem, hkind, hend, by rw [Path.append_nil]⟩
      | cons name names =>
        obtain ⟨e, hmem, hd⟩ := (Entry.descend?_cons_iff nodup).mp hd
        refine Or.inr (Or.inr ⟨name, e, hmem, (ih _ hmem).mpr ?_⟩)
        exact ⟨names, last, e', hd, hkind, hend, by rw [Path.append_cons]⟩

end Members

/-! ### Following an itinerary -/

/-- The folder at a stop and the fault of its listing, if it has one. -/
def Stop.fault? : Stop → Option (Path × Fault)
  | folder path (some fault) => some (path, fault)
  | _ => none

/-- The stops before the first fault. -/
def beforeFault (stops : List Stop) : List Stop :=
  stops.takeWhile fun stop => stop.fault?.isNone

/-- The first fault, and the folder that has it. -/
def firstFault? (stops : List Stop) : Option (Path × Fault) :=
  stops.findSome? Stop.fault?

/-- Some deeds **follow** some stops when they go through these up to the first fault, and fail
there. -/
structure Follows (root : Path) (stops : List Stop) (ds : List Deed) : Prop where
  found : foundIn ds = (beforeFault stops).filterMap Stop.file?
  listed : listedIn ds =
    (beforeFault stops).filterMap Stop.folder? ++ (firstFault? stops).toList.map Prod.fst
  failure : ds.findSome? Deed.failure? =
    (firstFault? stops).map fun fault => folderProblem root fault.1 fault.2

section Follows

variable {t : FileTree} {w : Walk} {root : Path} {stops : List Stop} {ds : List Deed}

private theorem Follows.ofDeeds_eq (h : Follows root stops ds) :
    Trace.ofDeeds ds =
      { found := (beforeFault stops).filterMap Stop.file?
        failure := (firstFault? stops).map fun fault => folderProblem root fault.1 fault.2 } := by
  rw [Trace.ofDeeds, h.found, h.failure]

private theorem Follows.file (h : Follows root stops ds) (path : Path) :
    Follows root (.file path :: stops) (.reported (.found path) :: ds) where
  found := congrArg (path :: ·) h.found
  listed := h.listed
  failure := h.failure

private theorem Follows.folder (h : Follows root stops ds) (path : Path)
    (answer : Except Fault (List (String × Bool))) :
    Follows root (.folder path none :: stops) (.listed path answer :: ds) where
  found := h.found
  listed := congrArg (path :: ·) h.listed
  failure := h.failure

private theorem Follows.ended (h : Follows root stops ds) :
    Follows root stops (.reported .ended :: ds) :=
  ⟨h.found, h.listed, h.failure⟩

private theorem follows_nil_of_finished (hs : w.stage = .finished) (ts : List FileTree) :
    Follows root [] (w.deedsThrough ts) := by
  obtain ⟨hfound, hlisted, hfailure⟩ := quiet_of_finished hs ts
  exact ⟨hfound, hlisted, hfailure⟩

private theorem follows_fault_of_finished (hs : w.stage = .finished) (ts : List FileTree)
    (path : Path) (fault : Fault) :
    Follows root (.folder path (some fault) :: stops)
      (.listed path (.error fault) :: .reported (.failed (folderProblem root path fault)) ::
        w.deedsThrough ts) := by
  obtain ⟨hfound, hlisted, -⟩ := quiet_of_finished hs ts
  exact ⟨hfound, congrArg (path :: ·) hlisted, rfl⟩

/-- **A walk that has begun follows its itinerary**, and comes to its end if it may make one step
more than there are stops. -/
theorem follows_deedsThrough {n : Nat} (hne : w.stage ≠ .fresh)
    (hn : (w.itinerary t).length < n) :
    Follows w.root (w.itinerary t) (w.deedsThrough (List.replicate n t)) ∧
      (w.stepThrough (List.replicate n t)).stage = .finished := by
  induction n generalizing w with
  | zero => exact absurd hn (Nat.not_lt_zero _)
  | succ n ih =>
    have hmove := move_step t w
    rw [List.replicate_succ, deedsThrough, stepThrough]
    generalize w.deeds t = ds at hmove ⊢
    generalize w.step t = result at hmove ⊢
    obtain ⟨event, w'⟩ := result
    -- each move takes the first stop off the itinerary, until one ends the walk
    cases hmove with
    | begin hs _ => exact absurd hs hne
    | absent hs _ => exact absurd hs hne
    | found hs =>
      rw [itinerary_found hs] at hn ⊢
      obtain ⟨hfollows, hend⟩ := ih Stage.noConfusion (Nat.lt_of_succ_lt_succ hn)
      exact ⟨hfollows.file _, hend⟩
    | entered hs h =>
      rw [itinerary_entered hs h] at hn ⊢
      obtain ⟨hfollows, hend⟩ := ih Stage.noConfusion (Nat.lt_of_succ_lt_succ hn)
      exact ⟨hfollows.folder _ _, hend⟩
    | refused hs h =>
      obtain ⟨rest, hrest⟩ := itinerary_refused hs h
      rw [hrest]
      exact ⟨follows_fault_of_finished rfl _ _ _, congrArg stage (deedsThrough_of_finished rfl _).1⟩
    | ended hs =>
      rw [itinerary_ended hs]
      have hend := congrArg stage (deedsThrough_of_finished (w := { w with stage := .finished }) rfl
        (List.replicate n t)).1
      exact ⟨(follows_nil_of_finished rfl _).ended, hend⟩
    | idle hs =>
      rw [itinerary_idle hs]
      exact ⟨(follows_nil_of_finished hs _).ended, by rwa [(deedsThrough_of_finished hs _).1]⟩

/-- A walk from a root follows its itinerary within its bound. -/
theorem follows_fresh (t : FileTree) (root : Path) (extension : String) :
    Follows root (itinerary t { root, extension })
        (deedsThrough (List.replicate (bound t) t) { root, extension }) ∧
      (stepThrough (List.replicate (bound t) t) { root, extension }).stage = .finished := by
  cases h : t.isFolder root with
  | true =>
    have hstep : step t { root, extension } =
        (.moved, { root, extension, stage := .active [] [root] }) := if_pos h
    have hdeeds : deeds t { root, extension } = [] := by rw [deeds, hstep]; rfl
    have hlen : (itinerary t { root, extension }).length < t.size + 2 := by
      have hle := length_stopsAt_le t extension root
      simp only [itinerary, h, if_true]
      omega
    rw [bound, List.replicate_succ, deedsThrough, stepThrough, hstep, hdeeds]
    rw [itinerary_begin rfl h] at hlen ⊢
    exact follows_deedsThrough Stage.noConfusion hlen
  | false =>
    have hstep : step t { root, extension } =
        (.ended, { root, extension, stage := .finished }) := if_neg (Bool.eq_false_iff.mp h)
    have hdeeds : deeds t { root, extension } = [.reported .ended] := by rw [deeds, hstep]; rfl
    have hnone : itinerary t { root, extension } = [] := by simp [itinerary, h]
    rw [bound, List.replicate_succ, deedsThrough, stepThrough, hstep, hdeeds, hnone]
    exact ⟨(follows_nil_of_finished rfl _).ended, congrArg stage (deedsThrough_of_finished rfl _).1⟩

end Follows

/-! ### From the root -/

/-- A trace finds nothing twice. -/
theorem nodup_found_trace (t : FileTree) (root : Path) (extension : String) :
    (trace t root extension).found.Nodup := by
  have h := orderly_deedsThrough (orderly_fresh root extension) (List.replicate (bound t) t)
  rw [trace, traceWithin_eq]
  exact h.nodup_found.of_append_left

/-- **A walk is the preorder of its root.** A walk from a root comes to its end within its bound. If
the root is no folder, it finds nothing, lists nothing and does not fail. Otherwise it goes through
the preorder of the folder up to the first fault, and fails there: it finds the files before the
fault, it lists the folders before the fault and the one that has it, nothing is found or listed
twice, and the failure has a name of its own at the root. In the preorder are the folders that names
lead to from the root without links, each with its fault if it cannot be listed, and the other
entries that names lead to and whose names end in the extension. -/
theorem walk_is_preorder (t : FileTree) (root : Path) (extension : String) :
    let steps := List.replicate (bound t) t
    let ds := ({ root, extension } : Walk).deedsThrough steps
    (({ root, extension } : Walk).stepThrough steps).stage = .finished ∧
      match t.resolve root with
      | .ok (here, .folder children) =>
        let stops := stopsOf t.denied extension root here (.folder children)
        trace t root extension =
            { found := (beforeFault stops).filterMap Stop.file?
              failure := (firstFault? stops).map fun (folder, fault) =>
                if folder = root then .rootFolder folder (fault.message folder)
                else .folder folder (fault.message folder) Problem.folderNoun } ∧
          listedIn ds =
            (beforeFault stops).filterMap Stop.folder? ++ (firstFault? stops).toList.map Prod.fst ∧
          (trace t root extension).found.Nodup ∧
          (listedIn ds).Nodup ∧
          (∀ folder fault, .folder folder fault ∈ stops ↔
            ∃ names below, (Entry.folder children).descend? names = some (.folder below) ∧
              folder = root.append names ∧ fault = t.listFault? folder) ∧
          ∀ file, .file file ∈ stops ↔
            ∃ names name e, (Entry.folder children).descend? (names ++ [name]) = some e ∧
              e.isFolder = false ∧ hasEnding extension name = true ∧
              file = (root.append names).child name
      | _ => trace t root extension = {} ∧ listedIn ds = [] := by
  intro steps ds
  obtain ⟨h, hend⟩ := follows_fresh t root extension
  have htrace : trace t root extension = Trace.ofDeeds ds := traceWithin_eq t _ _
  have horder := orderly_deedsThrough (orderly_fresh root extension) steps
  rw [itinerary, FileTree.isFolder, stopsAt] at h
  refine ⟨hend, ?_⟩
  rcases hr : t.resolve root with fault | ⟨here, e⟩
  · rw [hr] at h
    exact ⟨htrace.trans h.ofDeeds_eq, h.listed⟩
  have he := FileTree.isSound_of_resolve hr
  rw [hr] at h
  cases e with
  | file _ => exact ⟨htrace.trans h.ofDeeds_eq, h.listed⟩
  | link _ => exact ⟨htrace.trans h.ofDeeds_eq, h.listed⟩
  | folder children =>
    have hfound := nodup_found_trace t root extension
    refine ⟨htrace.trans h.ofDeeds_eq, h.listed, hfound, horder.nodup_listed, ?_, ?_⟩
    · intro folder fault
      rw [folder_mem_stopsOf he]
      -- the fault at a location is that of a path that leads there
      refine exists_congr fun names => exists_congr fun below => and_congr_right fun hd =>
        and_congr_right fun hfolder => ?_
      rw [hfolder, FileTree.listFault?_of_resolve (FileTree.resolve_append hr hd)]
    · exact fun file => file_mem_stopsOf he

/-- The files of a folder come before its subfolders, and a link that leads back up is a file. -/
example :
    let t := ((({} : FileTree).putFile ⟨.top, ["d", "b.md"]⟩ []).putLink
      ⟨.top, ["d", "up.md"]⟩ "/").putFile ⟨.top, ["z.md"]⟩ []
    (trace t ⟨.top, []⟩ ".md").found =
      [⟨.top, ["z.md"]⟩, ⟨.top, ["d", "b.md"]⟩, ⟨.top, ["d", "up.md"]⟩] := by
  rfl

end Rulebook.Walk
