import Rulebook.FileTree.Resolve

/-!
# The outline of a file tree

The **outline** of an entry is what is left of it without the bytes of its files: which names there
are in which folder, what each of them stands for, and where each link leads. Looking a path up and
listing a folder do not read files, so they answer alike on trees with one outline.

**Main facts.** `resolveNames_outline`: looking up in an outline comes to the outline of what is
found. `SameOutline.list_eq`: a path has the same listing in trees with one outline.
-/

namespace Rulebook

namespace Entry

mutual

/-- The entry without the bytes of its files. -/
def outline : Entry → Entry
  | file _ => file []
  | link target => link target
  | folder children => folder (outlineOfAll children)

/-- Named entries without the bytes of their files. -/
def outlineOfAll : List (String × Entry) → List (String × Entry)
  | [] => []
  | (name, e) :: rest => (name, e.outline) :: outlineOfAll rest

end

private theorem isFolder_outline (e : Entry) : e.outline.isFolder = e.isFolder := by
  cases e <;> rfl

private theorem lookup_outlineOfAll (name : String) (children : List (String × Entry)) :
    (outlineOfAll children).lookup name = (children.lookup name).map outline := by
  induction children with
  | nil => rfl
  | cons child rest ih =>
    obtain ⟨other, e⟩ := child
    rw [outlineOfAll, List.lookup_cons, List.lookup_cons]
    cases name == other with
    | true => rfl
    | false => exact ih

/-- The listing of a folder is that of its outline. -/
private theorem map_isFolder_outlineOfAll (children : List (String × Entry)) :
    (outlineOfAll children).map (fun child => (child.1, child.2.isFolder)) =
      children.map fun child => (child.1, child.2.isFolder) := by
  induction children with
  | nil => rfl
  | cons child rest ih =>
    obtain ⟨name, e⟩ := child
    rw [outlineOfAll, List.map_cons, List.map_cons, ih, isFolder_outline]

private theorem child?_outline (name : String) (e : Entry) :
    e.outline.child? name = (e.child? name).map outline := by
  cases e with
  | file content => rfl
  | link target => rfl
  | folder children => exact lookup_outlineOfAll name children

/-- Below the outline there is the outline of what is below. -/
private theorem descend?_outline (e : Entry) (here : Location) :
    e.outline.descend? here = (e.descend? here).map outline := by
  induction here generalizing e with
  | nil => rfl
  | cons name here ih =>
    rw [descend?, descend?, child?_outline]
    cases e.child? name with
    | none => rfl
    | some next => exact ih next

end Entry

namespace FileTree

/-! ### Looking up in an outline -/

/-- What a look-up comes to, without the bytes of files. -/
def outlineOf (result : Except Fault (Location × Entry)) : Except Fault (Location × Entry) :=
  result.map fun found => (found.1, found.2.outline)

private theorem followNames_outline (top : Entry)
    {follow follow' : Location → List String → Except Fault (Location × Entry)}
    (hf : ∀ here names, follow' here names = outlineOf (follow here names)) (here : Location)
    (names : List String) :
    followNames top.outline follow' here names = outlineOf (followNames top follow here names) := by
  fun_induction followNames top follow here names with
  | case1 here e he => rw [followNames, Entry.descend?_outline, he]; rfl
  | case2 here he => rw [followNames, Entry.descend?_outline, he]; rfl
  | case3 here name rest hskip ih => rw [followNames, if_pos hskip, ih]
  | case4 here rest hskip ih => rw [followNames, if_neg hskip, if_pos rfl, ih]
  | case5 here name rest hskip hup he =>
    rw [followNames, if_neg hskip, if_neg hup, Entry.descend?_outline, he]; rfl
  | case6 here name rest hskip hup children he ih =>
    rw [followNames, if_neg hskip, if_neg hup, Entry.descend?_outline, he]
    exact ih
  | case7 here name rest hskip hup content he hrest =>
    rw [followNames, if_neg hskip, if_neg hup, Entry.descend?_outline, he]
    exact if_pos hrest
  | case8 here name rest hskip hup content he hrest =>
    rw [followNames, if_neg hskip, if_neg hup, Entry.descend?_outline, he]
    exact if_neg hrest
  | case9 here name rest hskip hup target he =>
    rw [followNames, if_neg hskip, if_neg hup, Entry.descend?_outline, he]
    exact hf _ _

theorem resolveNames_outline (top : Entry) (links : Nat) (here : Location) (names : List String) :
    resolveNames top.outline links here names = outlineOf (resolveNames top links here names) := by
  induction links generalizing here names with
  | zero =>
    refine followNames_outline top ?_ here names
    intro here names
    rfl
  | succ links ih => exact followNames_outline top ih here names

/-! ### What a look-up says about folders -/

/-- Whether a look-up comes to a folder. -/
def leadsToFolder : Except Fault (Location × Entry) → Bool
  | .ok (_, e) => e.isFolder
  | .error _ => false

/-- The listing that a look-up comes to. -/
def listingOf (denied : List Location) :
    Except Fault (Location × Entry) → Except Fault (List (String × Bool))
  | .error fault => .error fault
  | .ok (here, .folder children) =>
    if denied.contains here then .error .accessDenied
    else .ok (children.map fun child => (child.1, child.2.isFolder))
  | .ok _ => .error .notAFolder

private theorem isFolder_eq_leadsToFolder (t : FileTree) (p : Path) :
    t.isFolder p = leadsToFolder (t.resolve p) := by
  rw [isFolder]
  cases t.resolve p <;> rfl

theorem list_eq_listingOf (t : FileTree) (p : Path) :
    t.list p = listingOf t.denied (t.resolve p) := by
  rw [list]
  rcases t.resolve p with fault | ⟨here, e⟩
  · rfl
  · cases e <;> rfl

private theorem leadsToFolder_outlineOf (result : Except Fault (Location × Entry)) :
    leadsToFolder (outlineOf result) = leadsToFolder result := by
  rcases result with fault | ⟨here, e⟩
  · rfl
  · exact e.isFolder_outline

private theorem listingOf_outlineOf (denied : List Location)
    (result : Except Fault (Location × Entry)) :
    listingOf denied (outlineOf result) = listingOf denied result := by
  rcases result with fault | ⟨here, e⟩
  · rfl
  cases e with
  | file content => rfl
  | link target => rfl
  | folder children =>
    simp only [outlineOf, Except.map, Entry.outline, listingOf, Entry.map_isFolder_outlineOfAll]

/-! ### Trees with one outline -/

/-- Two trees have the **same outline** when they differ in the bytes of their files only: they have
the same folders and links, with the same names in the same order, and refuse to list the same
folders. -/
structure SameOutline (t t' : FileTree) : Prop where
  outline_top : t.top.outline = t'.top.outline
  current_eq : t.current = t'.current
  denied_eq : t.denied = t'.denied

variable {t t' : FileTree}

private theorem SameOutline.outlineOf_resolve (h : t.SameOutline t') (p : Path) :
    outlineOf (t.resolve p) = outlineOf (t'.resolve p) := by
  have hstart : t.startOf p.anchor = t'.startOf p.anchor := by
    rw [startOf, startOf, h.current_eq]
  rw [resolve, resolve, ← resolveNames_outline, ← resolveNames_outline, h.outline_top, hstart]

theorem SameOutline.isFolder_eq (h : t.SameOutline t') (p : Path) :
    t.isFolder p = t'.isFolder p := by
  rw [isFolder_eq_leadsToFolder, isFolder_eq_leadsToFolder, ← leadsToFolder_outlineOf,
    h.outlineOf_resolve, leadsToFolder_outlineOf]

/-- **Trees with one outline list alike.** -/
theorem SameOutline.list_eq (h : t.SameOutline t') (p : Path) : t.list p = t'.list p := by
  rw [list_eq_listingOf, list_eq_listingOf, ← h.denied_eq, ← listingOf_outlineOf,
    h.outlineOf_resolve, listingOf_outlineOf]

end FileTree

end Rulebook
