import Rulebook.Proofs.FileTree.Lookup
import Rulebook.Walk

/-!
# The itinerary of a walk

On a tree that stays as it is, a walk has its way before it from the start: the **preorder** of
the folder that it begins at. `stopsOf` reads it off the entries by recursion, without a stack: a
folder, then the files in it that are looked for, then the preorder of each of its subfolders. The
`itinerary` of a walk under way is what it has ready, and then the preorder of each folder that is
pending.

**Main facts.** `stopsAt_of_list`: the preorder of a folder, by what listing it says.
`length_itinerary_le` and `length_stopsAt_le` bound an itinerary by the number of entries.
-/

namespace Rulebook.Walk

open FileTree (Fault)

/-- A place where a walk stops. -/
inductive Stop where
  /-- A folder to be listed, with the fault of its listing if there is one. -/
  | folder (path : Path) (fault : Option Fault)
  /-- A file that is looked for. -/
  | file (path : Path)
  deriving DecidableEq, Repr

/-- The folder to be listed at a stop. -/
def Stop.folder? : Stop → Option Path
  | folder path _ => some path
  | file _ => none

/-- The file at a stop. -/
def Stop.file? : Stop → Option Path
  | folder _ _ => none
  | file path => some path

/-- The paths of those entries of a folder that are no folders and whose names end in
`extension`, in order. -/
def filesAmong (extension : String) (p : Path) (children : List (String × Entry)) : List Path :=
  (children.filter fun child => !child.2.isFolder && hasEnding extension child.1).map fun child =>
    p.child child.1

section Stops

variable (denied : List Location) (extension : String)

mutual

/-- The **preorder** of the entry at a path and a location. An entry that is no folder has none. -/
def stopsOf (p : Path) (here : Location) : Entry → List Stop
  | .folder children =>
    .folder p (if denied.contains here then some .accessDenied else none) ::
      ((filesAmong extension p children).map .file ++ stopsOfAll p here children)
  | .file _ => []
  | .link _ => []

/-- The preorders of the entries of a folder, one after the other. -/
def stopsOfAll (p : Path) (here : Location) : List (String × Entry) → List Stop
  | [] => []
  | (name, e) :: rest => stopsOf (p.child name) (here ++ [name]) e ++ stopsOfAll p here rest

end

end Stops

/-- The preorder of the folder that a path leads to. Where it leads to none, the walk stops at it
all the same, and listing it fails. -/
def stopsAt (t : FileTree) (extension : String) (p : Path) : List Stop :=
  match t.resolve p with
  | .ok (here, .folder children) => stopsOf t.denied extension p here (.folder children)
  | .ok _ => [.folder p (some .notAFolder)]
  | .error fault => [.folder p (some fault)]

/-- What lies before a walk. -/
def itinerary (t : FileTree) (w : Walk) : List Stop :=
  match w.stage with
  | .fresh => if t.isFolder w.root then stopsAt t w.extension w.root else []
  | .active ready pending => ready.map .file ++ pending.flatMap (stopsAt t w.extension)
  | .finished => []

/-! ### Preorders and listings -/

private theorem stopsOf_of_not_isFolder {denied : List Location} {extension : String} {p : Path}
    {here : Location} {e : Entry} (h : e.isFolder = false) :
    stopsOf denied extension p here e = [] := by
  cases e with
  | folder children => exact nomatch h
  | file content => rfl
  | link target => rfl

/-- What the walk finds of an entry of a folder it finds by the path of the entry. -/
private theorem stopsAt_child {t : FileTree} {p : Path} {here : Location}
    {children : List (String × Entry)} (h : t.resolve p = .ok (here, .folder children))
    {child : String × Entry} (hmem : child ∈ children) (hf : child.2.isFolder = true)
    (extension : String) :
    stopsAt t extension (p.child child.1) =
      stopsOf t.denied extension (p.child child.1) (here ++ [child.1]) child.2 := by
  obtain ⟨name, e⟩ := child
  match e, hf, hmem with
  | .folder grandchildren, _, hmem =>
    have hr := FileTree.resolve_child h hmem fun target => Entry.noConfusion
    rw [stopsAt, hr]

/-- The preorders of the entries of a folder are those of its subfolders. -/
private theorem flatMap_foldersIn {t : FileTree} {p : Path} {here : Location}
    {children : List (String × Entry)} (h : t.resolve p = .ok (here, .folder children))
    (extension : String) {part : List (String × Entry)} (hpart : ∀ c ∈ part, c ∈ children) :
    (foldersIn p (part.map fun c => (c.1, c.2.isFolder))).flatMap (stopsAt t extension) =
      stopsOfAll t.denied extension p here part := by
  induction part with
  | nil => rfl
  | cons c cs ih =>
    obtain ⟨hc, hcs⟩ := List.forall_mem_cons.mp hpart
    have ih := ih hcs
    rw [foldersIn] at ih ⊢
    rw [List.map_cons, stopsOfAll, ← ih]
    cases hf : c.2.isFolder with
    | true =>
      rw [List.filter_cons_of_pos rfl, List.map_cons, List.flatMap_cons,
        stopsAt_child h hc hf extension]
    | false =>
      -- an entry that is no folder is left out on one side and has no preorder on the other
      rw [List.filter_cons_of_neg Bool.false_ne_true, stopsOf_of_not_isFolder hf, List.nil_append]

/-- A folder whose listing fails is where the walk stops. -/
theorem stopsAt_of_list_error {t : FileTree} {p : Path} {fault : Fault}
    (h : t.list p = .error fault) (extension : String) :
    ∃ rest, stopsAt t extension p = .folder p (some fault) :: rest := by
  rw [FileTree.list] at h
  rw [stopsAt]
  rcases hr : t.resolve p with fault' | ⟨here, e⟩
  · rw [hr] at h
    exact ⟨[], by rw [Except.error.inj h]⟩
  rw [hr] at h
  cases e with
  | file content => exact ⟨[], by rw [← Except.error.inj h]⟩
  | link target => exact ⟨[], by rw [← Except.error.inj h]⟩
  | folder children =>
    dsimp only at h ⊢
    by_cases hd : t.denied.contains here = true
    · rw [if_pos hd] at h
      rw [stopsOf, if_pos hd, ← Except.error.inj h]
      exact ⟨_, rfl⟩
    · rw [if_neg hd] at h
      cases h

/-- **The preorder of a folder, by its listing**: the folder, the files in it that are looked for,
and the preorders of its subfolders. -/
theorem stopsAt_of_list {t : FileTree} {p : Path} {entries : List (String × Bool)}
    (h : t.list p = .ok entries) (extension : String) :
    stopsAt t extension p =
      .folder p none :: ((filesIn extension p entries).map .file ++
        (foldersIn p entries).flatMap (stopsAt t extension)) := by
  rw [FileTree.list] at h
  rcases hr : t.resolve p with fault | ⟨here, e⟩
  · rw [hr] at h
    cases h
  rw [hr] at h
  cases e with
  | file content => cases h
  | link target => cases h
  | folder children =>
    dsimp only at h
    by_cases hd : t.denied.contains here = true
    · rw [if_pos hd] at h
      cases h
    rw [if_neg hd] at h
    obtain rfl := Except.ok.inj h
    have hfiles : filesIn extension p (children.map fun c => (c.1, c.2.isFolder)) =
        filesAmong extension p children := by
      rw [filesIn, filesAmong, List.filter_map, List.map_map]
      rfl
    rw [stopsAt, hr]
    dsimp only
    rw [stopsOf, if_neg hd, hfiles, flatMap_foldersIn hr extension fun c hc => hc]

/-! ### Lengths -/

section Lengths

variable (denied : List Location) (extension : String)

mutual

private theorem length_stopsOf_le (p : Path) (here : Location) :
    ∀ e : Entry, (stopsOf denied extension p here e).length ≤ e.size
  | .folder children => by
    have h := length_stopsOfAll_le p here children
    rw [stopsOf, Entry.size, List.length_cons, List.length_append, List.length_map]
    omega
  | .file _ => Nat.zero_le _
  | .link _ => Nat.zero_le _

private theorem length_stopsOfAll_le (p : Path) (here : Location) :
    ∀ children : List (String × Entry),
      (filesAmong extension p children).length +
        (stopsOfAll denied extension p here children).length ≤ Entry.sizeOfAll children
  | [] => Nat.zero_le _
  | (name, e) :: rest => by
    have hrest := length_stopsOfAll_le p here rest
    have he := length_stopsOf_le (p.child name) (here ++ [name]) e
    have hpos := e.size_pos
    rw [stopsOfAll, Entry.sizeOfAll, List.length_append]
    -- an entry is a stop among the files or has a preorder of its own, but never both
    cases hf : e.isFolder with
    | true =>
      rw [filesAmong, List.filter_cons_of_neg (by simp [hf])]
      rw [filesAmong] at hrest
      omega
    | false =>
      rw [stopsOf_of_not_isFolder hf, List.length_nil]
      have hfiles : (filesAmong extension p ((name, e) :: rest)).length ≤
          (filesAmong extension p rest).length + 1 := by
        rw [filesAmong, filesAmong, List.length_map, List.length_map, List.filter_cons]
        split
        · exact Nat.le_refl _
        · exact Nat.le_succ _
      omega

end

end Lengths

/-- The preorder of a folder is no longer than the tree has entries. -/
theorem length_stopsAt_le (t : FileTree) (extension : String) (p : Path) :
    (stopsAt t extension p).length ≤ t.size := by
  rw [stopsAt]
  split
  · next hr =>
    exact Nat.le_trans (length_stopsOf_le _ _ _ _ _) (FileTree.size_le_of_resolve hr)
  · exact t.top.size_pos
  · exact t.top.size_pos

/-- The preorders of some folders are together no longer than that many times the number of
entries. -/
theorem length_flatMap_stopsAt_le (t : FileTree) (extension : String) (pending : List Path) :
    (pending.flatMap (stopsAt t extension)).length ≤ pending.length * t.size := by
  induction pending with
  | nil => exact Nat.zero_le _
  | cons p pending ih =>
    have h := length_stopsAt_le t extension p
    rw [List.flatMap_cons, List.length_append, List.length_cons, Nat.succ_mul]
    omega

end Rulebook.Walk
