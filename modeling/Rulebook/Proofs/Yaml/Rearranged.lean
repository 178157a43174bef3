import Mathlib.Data.List.Basic
import Rulebook.Yaml.Document

/-!
# Documents with their root mapping in another order

The entries of the root mapping of a document may come in another order. Then its collections are
met in another order too, so that they have other numbers, and nothing else changes. A value may
mention the root mapping, because it may contain the value that contains it; such a value is shown
with the entries in their order. Every other value is shown as before.

**Main facts.** `Rearranges.collection?_eq_list_iff`, `Rearranges.exists_mapping`: what becomes of
lists and mappings. `Rearranges.render_eq`: a value that does not contain the root mapping is shown
as before.
-/

namespace Rulebook.Yaml

/-! ### Other numbers -/

/-- A value with other numbers for the collections that it mentions. -/
def Value.renumber (f : Nat → Nat) : Value → Value
  | scalar s => scalar s
  | pair key value => pair (key.renumber f) (value.renumber f)
  | collection id => collection (f id)

private theorem Value.renumber_id (v : Value) : v.renumber id = v := by
  induction v with
  | scalar s => rfl
  | pair key value hkey hvalue => rw [renumber, hkey, hvalue]
  | collection id => rfl

theorem Value.renumber_eq_scalar_iff {f : Nat → Nat} {v : Value} {s : Scalar} :
    v.renumber f = .scalar s ↔ v = .scalar s := by
  cases v <;> simp [renumber]

/-- An entry with other numbers for the collections that its value mentions. -/
def renumberEntry (f : Nat → Nat) (entry : Scalar × Value) : Scalar × Value :=
  (entry.1, entry.2.renumber f)

private theorem renumberEntry_id (entry : Scalar × Value) : renumberEntry id entry = entry :=
  congrArg (Prod.mk entry.1) (Value.renumber_id entry.2)

theorem map_fst_perm {f : Nat → Nat} {entries entries' : List (Scalar × Value)}
    (h : entries'.Perm (entries.map (renumberEntry f))) :
    (entries'.map Prod.fst).Perm (entries.map Prod.fst) := by
  have hkeys := h.map Prod.fst
  rwa [List.map_map] at hkeys

/-- The entries under other numbers, in any order, are those with the values under other numbers. -/
theorem mem_iff_of_perm {f : Nat → Nat} {entries entries' : List (Scalar × Value)}
    (h : entries'.Perm (entries.map (renumberEntry f))) {key : Scalar} {v' : Value} :
    (key, v') ∈ entries' ↔ ∃ v, (key, v) ∈ entries ∧ v' = v.renumber f := by
  rw [h.mem_iff, List.mem_map]
  constructor
  · rintro ⟨⟨key, v⟩, hv, heq⟩
    obtain ⟨rfl, rfl⟩ := Prod.mk.inj heq
    exact ⟨v, hv, rfl⟩
  · rintro ⟨v, hv, rfl⟩
    exact ⟨(key, v), hv, rfl⟩

/-- A collection with other numbers for the collections that it mentions. -/
def Collection.renumber (f : Nat → Nat) : Collection → Collection
  | list items => list (items.map (Value.renumber f))
  | mapping entries => mapping (entries.map (renumberEntry f))
  | set members => set members

namespace Document

/-- `d.Contains w v` means that the value `v` is `w`, or has it among its members, or they have
it. -/
inductive Contains (d : Document) (w : Value) : Value → Prop
  | self : Contains d w w
  | key {key value : Value} (h : Contains d w key) : Contains d w (.pair key value)
  | value {key value : Value} (h : Contains d w value) : Contains d w (.pair key value)
  | item {id : Nat} {items : List Value} {item : Value}
    (hid : d.collections.lookup id = some (.list items)) (hitem : item ∈ items)
    (h : Contains d w item) : Contains d w (.collection id)
  | entry {id : Nat} {entries : List (Scalar × Value)} {entry : Scalar × Value}
    (hid : d.collections.lookup id = some (.mapping entries)) (hentry : entry ∈ entries)
    (h : Contains d w entry.2) : Contains d w (.collection id)

/-- A document **is rearranged** to another one when that has the entries of the root mapping in
another order, and all else as it is, under other numbers. -/
structure Rearranges (f : Nat → Nat) (d d' : Document) : Prop where
  injective : Function.Injective f
  length_eq : d'.collections.length = d.collections.length
  root : d'.root = d.root.renumber f
  entries : ∃ entries entries', d.collection? d.root = some (.mapping entries) ∧
    d'.collection? d'.root = some (.mapping entries') ∧
      entries'.Perm (entries.map (renumberEntry f))
  others : ∀ id, d.root ≠ .collection id →
    d'.collections.lookup (f id) = (d.collections.lookup id).map (Collection.renumber f)

/-- A document that is a mapping. -/
def ofEntries (entries : List (Scalar × Value)) : Document :=
  ⟨[(0, .mapping entries)], .collection 0⟩

/-- A mapping with no other collection beside it is rearranged by a permutation of its entries. -/
theorem rearranges_ofEntries {entries entries' : List (Scalar × Value)}
    (h : entries'.Perm entries) :
    (ofEntries entries).Rearranges id (ofEntries entries') where
  injective := Function.injective_id
  length_eq := rfl
  root := rfl
  entries := by
    refine ⟨entries, entries', rfl, rfl, ?_⟩
    rwa [List.map_congr_left fun entry _ => renumberEntry_id entry, List.map_id']
  others number hnumber := by
    have hne : number ≠ 0 := fun hzero => hnumber (hzero ▸ rfl)
    rw [ofEntries, ofEntries, id, List.lookup_cons, List.lookup_cons, beq_false_of_ne hne]
    rfl

namespace Rearranges

variable {f : Nat → Nat} {d d' : Document}

/-! ### Lists and mappings -/

/-- Every value but the root mapping keeps its members in their order. -/
theorem collection?_of_ne (h : Rearranges f d d') {v : Value} (hv : v ≠ d.root) :
    d'.collection? (v.renumber f) = (d.collection? v).map (Collection.renumber f) := by
  cases v with
  | scalar s => rfl
  | pair key value => rfl
  | collection id => exact h.others id hv.symm

/-- Lists stay what they are. -/
theorem collection?_eq_list_iff (h : Rearranges f d d') {v : Value} {items' : List Value} :
    d'.collection? (v.renumber f) = some (.list items') ↔
      ∃ items, d.collection? v = some (.list items) ∧ items' = items.map (Value.renumber f) := by
  by_cases hv : v = d.root
  · obtain ⟨entries, entries', hroot, hroot', -⟩ := h.entries
    rw [hv, ← h.root, hroot, hroot']
    refine iff_of_false (by simp) ?_
    rintro ⟨items, hitems, -⟩
    cases hitems
  · rw [h.collection?_of_ne hv, Option.map_eq_some_iff]
    constructor
    · rintro ⟨c, hc, hitems⟩
      cases c with
      | list items => exact ⟨items, hc, (Collection.list.inj hitems).symm⟩
      | mapping => cases hitems
      | set => cases hitems
    · rintro ⟨items, hitems, rfl⟩
      exact ⟨_, hitems, rfl⟩

/-- Mappings keep their entries, perhaps in another order. -/
theorem exists_mapping (h : Rearranges f d d') {v : Value} {entries : List (Scalar × Value)}
    (hv : d.collection? v = some (.mapping entries)) :
    ∃ entries', d'.collection? (v.renumber f) = some (.mapping entries') ∧
      entries'.Perm (entries.map (renumberEntry f)) := by
  by_cases hroot : v = d.root
  · obtain ⟨old, new, hold, hnew, hperm⟩ := h.entries
    rw [hroot, hold] at hv
    obtain rfl := Collection.mapping.inj (Option.some.inj hv)
    rw [hroot, ← h.root]
    exact ⟨new, hnew, hperm⟩
  · refine ⟨_, ?_, .refl _⟩
    rw [h.collection?_of_ne hroot, hv]
    rfl

/-- What is a mapping then was one before. -/
theorem exists_mapping_of_renumber (h : Rearranges f d d') {v : Value}
    {entries' : List (Scalar × Value)}
    (hv : d'.collection? (v.renumber f) = some (.mapping entries')) :
    ∃ entries, d.collection? v = some (.mapping entries) ∧
      entries'.Perm (entries.map (renumberEntry f)) := by
  by_cases hroot : v = d.root
  · obtain ⟨old, new, hold, hnew, hperm⟩ := h.entries
    rw [hroot, ← h.root, hnew] at hv
    obtain rfl := Collection.mapping.inj (Option.some.inj hv)
    rw [hroot]
    exact ⟨old, hold, hperm⟩
  · rw [h.collection?_of_ne hroot] at hv
    obtain ⟨c, hc, hentries⟩ := Option.map_eq_some_iff.mp hv
    cases c with
    | mapping entries =>
      obtain rfl := Collection.mapping.inj hentries
      exact ⟨entries, hc, .refl _⟩
    | list => cases hentries
    | set => cases hentries

/-! ### Showing values -/

private theorem renderItems_eq_map (d : Document) (visiting : List Nat) (bound : Nat)
    (items : List Value) :
    d.renderItems visiting bound items = items.map (d.renderWithin visiting bound) := by
  induction items with
  | nil => rw [renderItems, List.map_nil]
  | cons item items ih => rw [renderItems, ih, List.map_cons]

private theorem renderEntries_eq_map (d : Document) (visiting : List Nat) (bound : Nat)
    (entries : List (Scalar × Value)) :
    d.renderEntries visiting bound entries =
      entries.map fun entry =>
        entry.1.render ++ ": " ++ d.renderWithin visiting bound entry.2 := by
  induction entries with
  | nil => rw [renderEntries, List.map_nil]
  | cons entry entries ih => rw [renderEntries, ih, List.map_cons]

/-- A value that does not contain the root mapping is shown as before, also within others. -/
private theorem renderWithin_eq (h : Rearranges f d d') {v : Value} (hv : ¬ d.Contains d.root v)
    (visiting : List Nat) (bound : Nat) :
    d'.renderWithin (visiting.map f) bound (v.renumber f) = d.renderWithin visiting bound v := by
  -- collections may contain each other, so the induction is on the bound; those that are open
  -- have other numbers too
  induction bound generalizing v visiting with
  | zero => cases v <;> simp [Value.renumber, renderWithin]
  | succ bound ih =>
    cases v with
    | scalar s => rw [Value.renumber, renderWithin, renderWithin]
    | pair key value =>
      rw [Value.renumber, renderWithin, renderWithin, ih (fun hkey => hv hkey.key) visiting,
        ih (fun hvalue => hv hvalue.value) visiting]
    | collection id =>
      have hid : d.root ≠ .collection id := fun hroot => hv (hroot ▸ Contains.self)
      have hopen : (visiting.map f).contains (f id) = visiting.contains id := by
        rw [Bool.eq_iff_iff, List.contains_iff_mem, List.contains_iff_mem,
          List.mem_map_of_injective h.injective]
      rw [Value.renumber, renderWithin, renderWithin, h.others id hid, hopen]
      cases hc : d.collections.lookup id with
      | none => rfl
      | some c =>
        cases c with
        | set members => rfl
        | list items =>
          have hitems : d'.renderItems ((id :: visiting).map f) bound
              (items.map (Value.renumber f)) = d.renderItems (id :: visiting) bound items := by
            rw [renderItems_eq_map, renderItems_eq_map, List.map_map]
            exact List.map_congr_left fun item hitem =>
              ih (fun hcontains => hv (.item hc hitem hcontains)) (id :: visiting)
          dsimp only [Option.map_some, Collection.renumber]
          rw [← hitems, List.map_cons]
        | mapping entries =>
          have hentries : d'.renderEntries ((id :: visiting).map f) bound
              (entries.map (renumberEntry f)) = d.renderEntries (id :: visiting) bound entries := by
            rw [renderEntries_eq_map, renderEntries_eq_map, List.map_map]
            refine List.map_congr_left fun entry hentry => ?_
            rw [Function.comp_apply, renumberEntry]
            dsimp only
            rw [ih (fun hcontains => hv (.entry hc hentry hcontains)) (id :: visiting)]
          dsimp only [Option.map_some, Collection.renumber]
          rw [← hentries, List.map_cons]

/-- **A value that does not contain the root mapping** is shown as before. -/
theorem render_eq (h : Rearranges f d d') {v : Value} (hv : ¬ d.Contains d.root v) :
    d'.render (v.renumber f) = d.render v := by
  rw [render, render, h.length_eq]
  exact h.renderWithin_eq hv [] _

end Rearranges

end Document

end Rulebook.Yaml
