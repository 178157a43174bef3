/-!
# File trees

An `Entry` is a file with its bytes, a link with its target, or a folder with named entries. It is
`IsSound` when no folder in it has a name twice, and every name is one that a path can follow. A
`FileTree` is everything from the top folder down, which is sound, with the folder that relative
paths start at, the folders that refuse to be listed and the files that refuse to be read.

A `Location` names an entry by the folders to go through from the top, without links. `descend?`
finds the entry at a location and `alter` changes it; a new entry goes ahead of the first one with
a greater name.

**Main fact.** `IsSound.alter`: changing an entry keeps the whole sound.

Left out are entries of other kinds, such as devices and pipes, names that are no texts, and owners
and permissions but for their effect: a folder refuses to be listed, a file refuses to be read. The
entries of a folder stand in the order in which a listing gives them. What else a system may refuse
to a process is told by the host that the tree is on.
-/

namespace Rulebook

/-- The names to follow from the top folder, each the name of a real folder but perhaps the last. -/
abbrev Location := List String

/-- What stands under a name in a folder. -/
inductive Entry where
  | file (content : List UInt8)
  | link (target : String)
  | folder (children : List (String × Entry))
  deriving Repr, Inhabited

namespace Entry

/-- Whether an entry is a folder itself. A link to a folder is not one. -/
def isFolder : Entry → Bool
  | folder _ => true
  | _ => false

/-- Whether an entry is a file. -/
def isFile : Entry → Bool
  | file _ => true
  | _ => false

/-- The entry under a name. -/
def child? (name : String) : Entry → Option Entry
  | folder children => children.lookup name
  | _ => none

/-- The entry at a location below this one. -/
def descend? (e : Entry) : Location → Option Entry
  | [] => some e
  | name :: rest => (e.child? name).bind fun next => next.descend? rest

/-- Whether a text can be a name in a folder: it is not empty, it is not one of the two texts that
lead to the folder itself and to the one above, and it holds no slash. -/
def isName (name : String) : Bool :=
  name ≠ "" && name ≠ "." && name ≠ ".." && name.toList.all fun c => c ≠ '/'

/-- Takes away the entry under a name. -/
def dropChild (name : String) (children : List (String × Entry)) : List (String × Entry) :=
  children.filter fun child => child.1 ≠ name

/-- Puts an entry under a new name, ahead of the first greater name. -/
def insertChild (name : String) (e : Entry) : List (String × Entry) → List (String × Entry)
  | [] => [(name, e)]
  | child :: rest =>
    if name < child.1 then (name, e) :: child :: rest else child :: insertChild name e rest

/-- Puts an entry under a name, in place of the one that was there. -/
def putChild (name : String) (e : Entry) (children : List (String × Entry)) :
    List (String × Entry) :=
  insertChild name e (dropChild name children)

/-- Makes `new` the entry at a location below a folder, or takes the entry away. The folders on the
way have to exist, and nothing is put under a text that cannot be a name. -/
def alter (new : Option Entry) : Location → Entry → Entry
  | [name], folder children =>
    match new with
    | some e => if isName name then folder (putChild name e children) else folder children
    | none => folder (dropChild name children)
  | name :: rest, folder children =>
    match children.lookup name with
    | some e => folder (putChild name (alter new rest e) children)
    | none => folder children
  | _, e => e

mutual

/-- The number of entries, this one included. -/
def size : Entry → Nat
  | file _ => 1
  | link _ => 1
  | folder children => 1 + sizeOfAll children

/-- The number of entries in a list of named ones. -/
def sizeOfAll : List (String × Entry) → Nat
  | [] => 0
  | (_, e) :: rest => e.size + sizeOfAll rest

end

/-! ### Sound entries -/

/-- An entry is **sound** when in each of its folders every name can be one, and no name is there
twice. -/
inductive IsSound : Entry → Prop
  | file (content : List UInt8) : IsSound (file content)
  | link (target : String) : IsSound (link target)
  | folder {children : List (String × Entry)} (nodup : (children.map Prod.fst).Nodup)
      (names : ∀ child ∈ children, isName child.1 = true)
      (sound : ∀ child ∈ children, IsSound child.2) : IsSound (folder children)

theorem isSound_folder_iff {children : List (String × Entry)} :
    IsSound (folder children) ↔
      (children.map Prod.fst).Nodup ∧ (∀ child ∈ children, isName child.1 = true) ∧
        ∀ child ∈ children, IsSound child.2 := by
  constructor
  · intro h
    cases h with
    | folder nodup names sound => exact ⟨nodup, names, sound⟩
  · rintro ⟨nodup, names, sound⟩
    exact .folder nodup names sound

theorem isSound_emptyFolder : IsSound (folder []) :=
  isSound_folder_iff.mpr ⟨List.nodup_nil, List.forall_mem_nil _, List.forall_mem_nil _⟩

/-- What is found under a name in a list of entries is one of them. -/
theorem mem_of_lookup {children : List (String × Entry)} {name : String} {e : Entry}
    (h : children.lookup name = some e) : (name, e) ∈ children := by
  obtain ⟨l₁, l₂, rfl, -⟩ := List.lookup_eq_some_iff.mp h
  exact List.mem_append_right _ List.mem_cons_self

theorem insertChild_perm (name : String) (e : Entry) (children : List (String × Entry)) :
    (insertChild name e children).Perm ((name, e) :: children) := by
  induction children with
  | nil => exact .refl _
  | cons child rest ih =>
    rw [insertChild]
    split
    · exact .refl _
    · exact (ih.cons child).trans (.swap _ _ _)

/-- Taking an entry away keeps a folder sound. -/
theorem IsSound.dropChild {children : List (String × Entry)} (h : IsSound (.folder children))
    (name : String) : IsSound (.folder (Entry.dropChild name children)) := by
  obtain ⟨nodup, names, sound⟩ := isSound_folder_iff.mp h
  have hsub : (Entry.dropChild name children).Sublist children := List.filter_sublist
  exact .folder ((hsub.map Prod.fst).nodup nodup) (fun c hc => names c (hsub.mem hc))
    fun c hc => sound c (hsub.mem hc)

/-- Putting a sound entry under a name keeps a folder sound. -/
theorem IsSound.putChild {children : List (String × Entry)} (h : IsSound (.folder children))
    {name : String} (hname : isName name = true) {e : Entry} (he : e.IsSound) :
    IsSound (.folder (Entry.putChild name e children)) := by
  have hperm := insertChild_perm name e (Entry.dropChild name children)
  have hnew : name ∉ (Entry.dropChild name children).map Prod.fst := by
    intro hmem
    obtain ⟨c, hc, hcn⟩ := List.mem_map.mp hmem
    exact of_decide_eq_true (List.mem_filter.mp hc).2 hcn
  obtain ⟨nodup, names, sound⟩ := isSound_folder_iff.mp (h.dropChild name)
  refine .folder ((hperm.map Prod.fst).nodup_iff.mpr (List.nodup_cons.mpr ⟨hnew, nodup⟩)) ?_ ?_
  · intro c hc
    rcases List.mem_cons.mp (hperm.mem_iff.mp hc) with rfl | hc
    · exact hname
    · exact names c hc
  · intro c hc
    rcases List.mem_cons.mp (hperm.mem_iff.mp hc) with rfl | hc
    · exact he
    · exact sound c hc

/-- Changing the entry at a location keeps the whole sound. -/
theorem IsSound.alter {e : Entry} (h : e.IsSound) {new : Option Entry}
    (hnew : ∀ e ∈ new, IsSound e) (here : Location) : (e.alter new here).IsSound := by
  fun_induction Entry.alter new here e with
  | case1 name children e he hname => exact h.putChild hname (hnew e he)
  | case2 => exact h
  | case3 => exact h.dropChild _
  | case4 name rest children _ old hold ih =>
    obtain ⟨_, names, sound⟩ := isSound_folder_iff.mp h
    have hmem := mem_of_lookup hold
    exact h.putChild (names _ hmem) (ih (sound _ hmem))
  | case5 => exact h
  | case6 => exact h

end Entry

/-- A file tree, as a process in its current folder sees it. -/
structure FileTree where
  /-- The top folder. -/
  top : Entry := .folder []
  /-- The folder that relative paths start at. -/
  current : Location := []
  /-- The folders whose listing is refused. -/
  denied : List Location := []
  /-- The files that refuse to be read. -/
  locked : List Location := []
  /-- In no folder is a name there twice, and every name can be one. -/
  sound : top.IsSound := by exact Entry.isSound_emptyFolder
  deriving Repr

namespace FileTree

instance : Inhabited FileTree := ⟨{}⟩

/-- Makes a sound entry the one at a location. -/
def place (t : FileTree) (here : Location) (e : Entry) (he : e.IsSound) : FileTree :=
  { t with
    top := t.top.alter (some e) here
    sound := t.sound.alter (fun _ h => Option.some.inj h ▸ he) here }

/-- Takes away the entry at a location. -/
def clear (t : FileTree) (here : Location) : FileTree :=
  { t with
    top := t.top.alter none here
    sound := t.sound.alter (fun _ h => absurd h (Option.not_mem_none _)) here }

/-- Why an entry cannot be reached, listed or read. -/
inductive Fault where
  | notFound
  | accessDenied
  | notAFolder
  | isAFolder
  | tooManyLinks
  deriving DecidableEq, Repr

/-- The number of a fault. -/
def Fault.number : Fault → Nat
  | notFound => 2
  | accessDenied => 13
  | notAFolder => 20
  | isAFolder => 21
  | tooManyLinks => 40

/-- A fault in words. -/
def Fault.describe : Fault → String
  | notFound => "No such file or directory"
  | accessDenied => "Permission denied"
  | notAFolder => "Not a directory"
  | isAFolder => "Is a directory"
  | tooManyLinks => "Too many levels of symbolic links"

/-- The number of entries of a tree. -/
def size (t : FileTree) : Nat :=
  t.top.size

end FileTree

end Rulebook
