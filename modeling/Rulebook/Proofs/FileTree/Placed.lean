import Rulebook.Proofs.FileTree.Lookup
import Rulebook.Proofs.FileTree.Reached

/-!
# One folder at two places

The same folder, without links in it, may lie below different roots of different trees. Then each
entry of it is found below either root by the same names, so that the trees list alike there, and
its files are read alike. Without links there is no way out of the folder, and no way back to it
that depends on where it lies.

**Main facts.** `Holds.listsAlike`: trees that hold one entry list alike. `Holds.readText_eq`: what
is read of a file that a walk is shown depends on the entry only.
-/

namespace Rulebook

namespace Entry

/-- An entry is **free of links** when neither itself nor anything in it is one. -/
inductive LinkFree : Entry → Prop
  | file (content : List UInt8) : LinkFree (file content)
  | folder {children : List (String × Entry)} (h : ∀ child ∈ children, LinkFree child.2) :
    LinkFree (folder children)

private theorem LinkFree.ne_link {e : Entry} (h : e.LinkFree) (target : String) :
    e ≠ link target := by
  rintro rfl
  cases h

/-- What is found in an entry without links has none. -/
private theorem LinkFree.of_descend? {e e' : Entry} (h : e.LinkFree) {here : Location}
    (hd : e.descend? here = some e') : e'.LinkFree := by
  induction here generalizing e with
  | nil => exact Option.some.inj hd ▸ h
  | cons name here ih =>
    obtain ⟨next, hnext, hd'⟩ := Option.bind_eq_some_iff.mp hd
    cases h with
    | file content => cases hnext
    | folder hchildren => exact ih (hchildren _ (mem_of_lookup hnext)) hd'

end Entry

namespace FileTree

/-- A tree **holds** an entry at a root when the root leads to it, and the folders in it that refuse
to be listed and the files in it that refuse to be read are those that `refused` tells by the names
to them. -/
def Holds (t : FileTree) (root : Path) (e : Entry) (refused : List Location) : Prop :=
  ∃ here, t.resolve root = .ok (here, e) ∧
    (∀ names children, e.descend? names = some (.folder children) →
      (here ++ names ∈ t.denied ↔ names ∈ refused)) ∧
    ∀ names content, e.descend? names = some (.file content) →
      (here ++ names ∈ t.locked ↔ names ∈ refused)

variable {t t' : FileTree} {root root' : Path} {e : Entry} {refused : List Location}
  {names : List String}

/-- What is in an entry is found below the root that it is held at. -/
private theorem resolve_append_of_linkFree {here : Location} (he : e.LinkFree)
    (h : t.resolve root = .ok (here, e)) {e' : Entry} (hd : e.descend? names = some e') :
    t.resolve (root.append names) = .ok (here ++ names, e') :=
  resolve_append_of_not_link h hd (he.of_descend? hd).ne_link

/-- A listing of what a tree holds, by the entry. -/
private theorem Holds.list_eq (h : t.Holds root e refused) (he : e.LinkFree) {e' : Entry}
    (hd : e.descend? names = some e') :
    t.list (root.append names) = listingOf refused (.ok (names, e')) := by
  obtain ⟨here, hr, hdenied, -⟩ := h
  rw [list_eq_listingOf, resolve_append_of_linkFree he hr hd]
  cases e' with
  | folder children =>
    rw [listingOf, listingOf]
    simp only [List.contains_iff_mem, hdenied names children hd]
  | file content => rfl
  | link target => rfl

/-- The bytes of what a tree holds, by the entry. -/
private theorem Holds.readBytes_eq (h : t.Holds root e refused) (he : e.LinkFree) {e' : Entry}
    (hd : e.descend? names = some e') :
    t.readBytes (root.append names) =
      match e' with
      | .file content => if names ∈ refused then .error .accessDenied else .ok content
      | _ => .error .isAFolder := by
  obtain ⟨here, hr, -, hlocked⟩ := h
  rw [readBytes, resolve_append_of_linkFree he hr hd]
  cases e' with
  | file content => simp only [List.contains_iff_mem, hlocked names content hd]
  | folder children => rfl
  | link target => rfl

/-- What a listing names is in the entry. -/
private theorem Holds.exists_of_list (h : t.Holds root e refused) (he : e.LinkFree) {e' : Entry}
    (hd : e.descend? names = some e') {entries : List (String × Bool)}
    (hlist : t.list (root.append names) = .ok entries) {name : String} {kind : Bool}
    (hmem : (name, kind) ∈ entries) :
    ∃ child, e.descend? (names ++ [name]) = some child ∧ child.isFolder = kind := by
  -- the folder that was listed is the one in the entry, since without links there is no other way
  obtain ⟨here, hr, -⟩ := h
  obtain ⟨there, children, hfolder, rfl⟩ := exists_folder_of_list hlist
  rw [resolve_append_of_linkFree he hr hd] at hfolder
  obtain ⟨-, rfl⟩ := Prod.mk.inj (Except.ok.inj hfolder)
  obtain ⟨child, hchild, heq⟩ := List.mem_map.mp hmem
  obtain ⟨rfl, rfl⟩ := Prod.mk.inj heq
  exact ⟨child.2, Entry.descend?_concat_of_mem (isSound_of_resolve hr) hd hchild, rfl⟩

/-- What a walk can reach is in the entry. -/
private theorem Holds.exists_of_reaches (h : t.Holds root e refused) (he : e.LinkFree)
    (hreach : t.Reaches root names) : ∃ e', e.descend? names = some e' := by
  induction hreach with
  | root => exact ⟨e, rfl⟩
  | child _ hlist hmem ih =>
    obtain ⟨e', hd⟩ := ih
    obtain ⟨child, hchild, -⟩ := h.exists_of_list he hd hlist hmem
    exact ⟨child, hchild⟩

/-- **Trees that hold one entry list alike.** -/
theorem Holds.listsAlike (h : t.Holds root e refused) (h' : t'.Holds root' e refused)
    (he : e.LinkFree) : t.ListsAlike t' root root' where
  isFolder_eq := by
    obtain ⟨here, hr, -⟩ := h
    obtain ⟨here', hr', -⟩ := h'
    rw [isFolder, isFolder, hr, hr']
  list_eq := by
    intro names hreach
    obtain ⟨e', hd⟩ := h.exists_of_reaches he hreach
    rw [h.list_eq he hd, h'.list_eq he hd]

/-- **What is read of a file** that a walk is shown depends on the entry only. -/
theorem Holds.readText_eq (h : t.Holds root e refused) (h' : t'.Holds root' e refused)
    (he : e.LinkFree) (hshown : t.Shows root names) :
    t.readText (root.append names) = t'.readText (root'.append names) := by
  obtain ⟨folder, entries, name, hreach, hlist, hmem, rfl⟩ := hshown
  obtain ⟨e', hd⟩ := h.exists_of_reaches he hreach
  obtain ⟨child, hchild, -⟩ := h.exists_of_list he hd hlist hmem
  rw [readText, readText, h.readBytes_eq he hchild, h'.readBytes_eq he hchild]

end FileTree

end Rulebook
