import Rulebook.FileTree.Resolve
import Mathlib.Data.List.Basic

/-!
# What a path leads to, and what its entries lead to

Looking up a path ends at a location without links and the entry there. Going on by one more name
from a path that leads to a folder leads to the entry of that name, unless it is a link: the links
on the way to the folder are followed as before, and there is no new one.

**Main facts.** `resolve_child`: an entry of a folder is found by its own path.
`resolve_append_of_not_link`: so is all that lies below.
`size_le_of_resolve`: what a path leads to is no larger than the tree.
-/

namespace Rulebook

namespace Entry

/-! ### Descending -/

private theorem descend?_append (e : Entry) (here there : Location) :
    e.descend? (here ++ there) = (e.descend? here).bind fun next => next.descend? there := by
  induction here generalizing e with
  | nil => rfl
  | cons name here ih =>
    rw [List.cons_append, descend?, descend?]
    cases e.child? name with
    | none => rfl
    | some next => exact ih next

/-- What is found below a sound entry is sound. -/
private theorem IsSound.of_descend? {e e' : Entry} (h : e.IsSound) {here : Location}
    (hd : e.descend? here = some e') : e'.IsSound := by
  induction here generalizing e with
  | nil => exact Option.some.inj hd ▸ h
  | cons name here ih =>
    obtain ⟨next, hnext, hd'⟩ := Option.bind_eq_some_iff.mp hd
    match e, h, hnext with
    | .folder children, h, hnext =>
      exact ih ((isSound_folder_iff.mp h).2.2 _ (mem_of_lookup hnext)) hd'

/-- In a folder without repeated names each entry is found under its name. -/
private theorem lookup_of_mem {children : List (String × Entry)}
    (hn : (children.map Prod.fst).Nodup)
    {name : String} {e : Entry} (h : (name, e) ∈ children) : children.lookup name = some e := by
  obtain ⟨l₁, l₂, rfl⟩ := List.append_of_mem h
  refine List.lookup_eq_some_iff.mpr ⟨l₁, l₂, rfl, fun p hp => bne_iff_ne.mpr fun hname => ?_⟩
  rw [List.map_append, List.map_cons] at hn
  exact (List.nodup_append.mp hn).2.2 p.1 (List.mem_map_of_mem hp) name List.mem_cons_self
    hname.symm

/-- Below an entry that is no folder there is nothing else. -/
private theorem descend?_of_not_isFolder {e e' : Entry} (h : e.isFolder = false) {here : Location}
    (hd : e.descend? here = some e') : here = [] ∧ e' = e := by
  cases here with
  | nil => exact ⟨rfl, (Option.some.inj hd).symm⟩
  | cons name here =>
    match e, h with
    | .file _, _ => exact nomatch hd
    | .link _, _ => exact nomatch hd

/-- Where there is no folder, none is found below. -/
theorem descend?_ne_folder {e : Entry} (h : e.isFolder = false) {here : Location}
    {children : List (String × Entry)} : e.descend? here ≠ some (folder children) := by
  intro hd
  obtain ⟨-, rfl⟩ := descend?_of_not_isFolder h hd
  exact Bool.noConfusion h

/-- Where there is no folder, no name leads on. -/
theorem descend?_concat_ne {e e' : Entry} (h : e.isFolder = false) {here : Location}
    {name : String} : e.descend? (here ++ [name]) ≠ some e' := by
  intro hd
  exact List.append_ne_nil_of_right_ne_nil _ (List.cons_ne_nil _ _)
    (descend?_of_not_isFolder h hd).1

/-- What is found below a folder is found below one of its entries. -/
theorem descend?_cons_iff {children : List (String × Entry)}
    (hn : (children.map Prod.fst).Nodup) {name : String} {here : Location} {e' : Entry} :
    (folder children).descend? (name :: here) = some e' ↔
      ∃ e, (name, e) ∈ children ∧ e.descend? here = some e' := by
  rw [descend?, child?, Option.bind_eq_some_iff]
  constructor
  · rintro ⟨e, he, hd⟩
    exact ⟨e, mem_of_lookup he, hd⟩
  · rintro ⟨e, he, hd⟩
    exact ⟨e, lookup_of_mem hn he, hd⟩

/-- An entry of a folder is found by one more name. -/
theorem descend?_concat_of_mem {e child : Entry} (he : e.IsSound) {here : Location} {name : String}
    {children : List (String × Entry)} (hd : e.descend? here = some (folder children))
    (hmem : (name, child) ∈ children) : e.descend? (here ++ [name]) = some child := by
  have hn := (isSound_folder_iff.mp (he.of_descend? hd)).1
  rw [descend?_append, hd]
  exact (descend?_cons_iff hn).mpr ⟨child, hmem, rfl⟩

/-! ### Sizes -/

theorem size_pos (e : Entry) : 0 < e.size := by
  cases e <;> rw [size] <;> omega

private theorem size_le_sizeOfAll {children : List (String × Entry)} {child : String × Entry}
    (h : child ∈ children) : child.2.size ≤ sizeOfAll children := by
  induction children with
  | nil => exact absurd h List.not_mem_nil
  | cons c children ih =>
    rw [sizeOfAll]
    rcases List.mem_cons.mp h with rfl | h
    · exact Nat.le_add_right _ _
    · exact Nat.le_trans (ih h) (Nat.le_add_left _ _)

/-- What is found below an entry is no larger. -/
private theorem size_le_of_descend? {e e' : Entry} {here : Location}
    (h : e.descend? here = some e') :
    e'.size ≤ e.size := by
  induction here generalizing e with
  | nil => exact Nat.le_of_eq (congrArg size (Option.some.inj h).symm)
  | cons name here ih =>
    obtain ⟨next, hnext, h'⟩ := Option.bind_eq_some_iff.mp h
    match e, hnext with
    | .folder children, hnext =>
      have hle : next.size ≤ sizeOfAll children := size_le_sizeOfAll (mem_of_lookup hnext)
      rw [size]
      exact Nat.le_trans (ih h') (by omega)

end Entry

namespace FileTree

/-! ### Following names -/

section Following

variable {top : Entry} {follow : Location → List String → Except Fault (Location × Entry)}
  {here loc : Location} {names : List String} {e : Entry}

/-- A look-up ends at a location and the entry there. -/
private theorem descend?_of_followNames
    (hf : ∀ {here names}, follow here names = .ok (loc, e) → top.descend? loc = some e)
    (h : followNames top follow here names = .ok (loc, e)) : top.descend? loc = some e := by
  fun_induction followNames top follow here names with
  | case1 here found hfound =>
    obtain ⟨rfl, rfl⟩ := Prod.mk.inj (Except.ok.inj h)
    exact hfound
  | case2 => exact nomatch h
  | case3 _ _ _ _ ih => exact ih h
  | case4 _ _ _ ih => exact ih h
  | case5 => exact nomatch h
  | case6 _ _ _ _ _ _ _ ih => exact ih h
  | case7 here name rest _ _ content hfound =>
    obtain ⟨rfl, rfl⟩ := Prod.mk.inj (Except.ok.inj h)
    exact hfound
  | case8 => exact nomatch h
  | case9 => exact hf h

/-- The names that say nothing, or lead up, are not names of entries. -/
private theorem ne_of_isName {name : String} (h : Entry.isName name = true) :
    ¬(decide (name = "") || decide (name = ".")) = true ∧ name ≠ ".." := by
  simp only [Entry.isName, Bool.and_eq_true, decide_eq_true_eq] at h
  obtain ⟨⟨⟨hempty, hdot⟩, hup⟩, -⟩ := h
  exact ⟨by simp [hempty, hdot], hup⟩

/-- From a folder, one more name leads to the entry of that name. -/
private theorem followNames_concat {name : String} (hname : Entry.isName name = true)
    (hlink : ∀ target, e ≠ .link target) {children : List (String × Entry)}
    (hlookup : children.lookup name = some e)
    (hf : ∀ {here names}, follow here names = .ok (loc, .folder children) →
      follow here (names ++ [name]) = .ok (loc ++ [name], e))
    (h : followNames top follow here names = .ok (loc, .folder children)) :
    followNames top follow here (names ++ [name]) = .ok (loc ++ [name], e) := by
  obtain ⟨hplain, hup⟩ := ne_of_isName hname
  fun_induction followNames top follow here names with
  | case1 here found hfound =>
    -- the names are used up at the folder, and the last one is looked up there
    obtain ⟨rfl, rfl⟩ := Prod.mk.inj (Except.ok.inj h)
    have hthere : top.descend? (here ++ [name]) = some e := by
      rw [Entry.descend?_append, hfound]
      simpa [Entry.descend?, Entry.child?] using hlookup
    rw [List.nil_append, followNames, if_neg hplain, if_neg hup, hthere]
    match e, hlink, hthere with
    | .folder _, _, hthere => simp only [followNames, hthere]
    | .file _, _, _ => rfl
    | .link target, hlink, _ => exact absurd rfl (hlink target)
  | case2 => exact nomatch h
  | case3 here other rest hskip ih =>
    rw [List.cons_append, followNames, if_pos hskip]
    exact ih h
  | case4 here rest hskip ih =>
    rw [List.cons_append, followNames, if_neg hskip, if_pos rfl]
    exact ih h
  | case5 => exact nomatch h
  | case6 here other rest hskip hdots _ hfound ih =>
    rw [List.cons_append, followNames, if_neg hskip, if_neg hdots, hfound]
    exact ih h
  | case7 => exact nomatch (Prod.mk.inj (Except.ok.inj h)).2
  | case8 => exact nomatch h
  | case9 here other rest hskip hdots target hfound =>
    rw [List.cons_append, followNames, if_neg hskip, if_neg hdots, hfound]
    dsimp only
    -- the target of a link comes ahead of the names that are left, and of the last one with them
    rw [← List.append_assoc]
    exact hf h

private theorem descend?_of_resolveNames {links : Nat}
    (h : resolveNames top links here names = .ok (loc, e)) : top.descend? loc = some e := by
  induction links generalizing here names with
  | zero =>
    refine descend?_of_followNames ?_ h
    intro here names h
    exact nomatch h
  | succ links ih => exact descend?_of_followNames (fun h => ih h) h

private theorem resolveNames_concat {links : Nat} {name : String}
    (hname : Entry.isName name = true) (hlink : ∀ target, e ≠ .link target)
    {children : List (String × Entry)} (hlookup : children.lookup name = some e)
    (h : resolveNames top links here names = .ok (loc, .folder children)) :
    resolveNames top links here (names ++ [name]) = .ok (loc ++ [name], e) := by
  induction links generalizing here names with
  | zero =>
    refine followNames_concat hname hlink hlookup ?_ h
    intro here names h
    exact nomatch h
  | succ links ih => exact followNames_concat hname hlink hlookup (fun h => ih h) h

end Following

/-! ### Following paths -/

variable {t : FileTree} {p : Path} {here : Location} {e : Entry}

/-- What a path leads to stands at the location that it leads to. -/
private theorem descend?_of_resolve (h : t.resolve p = .ok (here, e)) :
    t.top.descend? here = some e :=
  descend?_of_resolveNames h

/-- What a path leads to is sound. -/
theorem isSound_of_resolve (h : t.resolve p = .ok (here, e)) : e.IsSound :=
  t.sound.of_descend? (descend?_of_resolve h)

/-- What a path leads to is no larger than the tree. -/
theorem size_le_of_resolve (h : t.resolve p = .ok (here, e)) : e.size ≤ t.size :=
  Entry.size_le_of_descend? (descend?_of_resolve h)

/-- **An entry of a folder is found by its own path**, unless it is a link. -/
theorem resolve_child {children : List (String × Entry)}
    (h : t.resolve p = .ok (here, .folder children)) {name : String}
    (hmem : (name, e) ∈ children) (hlink : ∀ target, e ≠ .link target) :
    t.resolve (p.child name) = .ok (here ++ [name], e) := by
  obtain ⟨nodup, names, -⟩ := Entry.isSound_folder_iff.mp (isSound_of_resolve h)
  exact resolveNames_concat (names _ hmem) hlink (Entry.lookup_of_mem nodup hmem) h

/-- **What lies below the entry that a path leads to is found by its own path**, unless it is a
link. -/
theorem resolve_append_of_not_link {names : List String} {e' : Entry}
    (h : t.resolve p = .ok (here, e)) (hd : e.descend? names = some e')
    (hlink : ∀ target, e' ≠ .link target) :
    t.resolve (p.append names) = .ok (here ++ names, e') := by
  induction names generalizing p here e with
  | nil =>
    obtain rfl := Option.some.inj hd
    rw [List.append_nil, Path.append_nil]
    exact h
  | cons name names ih =>
    obtain ⟨next, hnext, hd'⟩ := Option.bind_eq_some_iff.mp hd
    match e, h, hnext with
    | .folder siblings, h, hnext =>
      -- a link on the way would have nothing below it
      have hnextlink : ∀ target, next ≠ .link target := by
        rintro target rfl
        cases names with
        | nil => exact hlink target (Option.some.inj hd').symm
        | cons => exact nomatch hd'
      have hchild := resolve_child h (Entry.mem_of_lookup hnext) hnextlink
      rw [Path.append_cons, ih hchild hd', List.append_assoc, List.singleton_append]

/-- A folder below the one that a path leads to is found by its own path. -/
theorem resolve_append {names : List String} {children : List (String × Entry)}
    (h : t.resolve p = .ok (here, e)) (hd : e.descend? names = some (.folder children)) :
    t.resolve (p.append names) = .ok (here ++ names, .folder children) :=
  resolve_append_of_not_link h hd fun _ => Entry.noConfusion

theorem isFolder_iff :
    t.isFolder p = true ↔ ∃ here children, t.resolve p = .ok (here, .folder children) := by
  rw [isFolder]
  constructor
  · intro h
    split at h
    · next here e hr =>
      match e, h with
      | .folder children, _ => exact ⟨here, children, hr⟩
    · exact absurd h Bool.false_ne_true
  · rintro ⟨here, children, hr⟩
    rw [hr]
    rfl

/-! ### Listings -/

/-- Why the folder that a path leads to cannot be listed. -/
def listFault? (t : FileTree) (p : Path) : Option Fault :=
  match t.list p with
  | .ok _ => none
  | .error fault => some fault

theorem listFault?_of_resolve {children : List (String × Entry)}
    (h : t.resolve p = .ok (here, .folder children)) :
    t.listFault? p = if t.denied.contains here then some .accessDenied else none := by
  rw [listFault?, list, h]
  dsimp only
  cases t.denied.contains here <;> rfl

/-- What is listed is a folder that does not refuse it, entry by entry. -/
theorem exists_folder_of_list {entries : List (String × Bool)} (h : t.list p = .ok entries) :
    ∃ here children, t.resolve p = .ok (here, .folder children) ∧
      entries = children.map fun child => (child.1, child.2.isFolder) := by
  rw [list] at h
  split at h
  · exact nomatch h
  · next here children hr =>
    split at h
    · exact nomatch h
    · exact ⟨here, children, hr, (Except.ok.inj h).symm⟩
  · exact nomatch h

/-- In a listing no name is there twice, and every name can be one. -/
theorem nodup_of_list {entries : List (String × Bool)} (h : t.list p = .ok entries) :
    (entries.map Prod.fst).Nodup ∧ ∀ entry ∈ entries, Entry.isName entry.1 = true := by
  rw [list] at h
  split at h
  · exact nomatch h
  · next hr =>
    obtain ⟨nodup, names, -⟩ := Entry.isSound_folder_iff.mp (isSound_of_resolve hr)
    split at h
    · exact nomatch h
    · obtain rfl := Except.ok.inj h
      rw [List.map_map]
      exact ⟨nodup, List.forall_mem_map.mpr names⟩
  · exact nomatch h

end FileTree
end Rulebook
