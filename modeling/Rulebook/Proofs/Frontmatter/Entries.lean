import Rulebook.Frontmatter.Metadata
import Mathlib.Data.List.Basic

/-!
# Metadata as a finite map

Metadata is read through two views, `get?` and `keys`. This module says what `set` and `append` do
to each of them, so that later proofs need not look at the entries.

**Main facts.** `get?_set` and `keys_set` describe binding a key, `get?_append_self` adding an
item to a list. `ext_of_get?` says that the keys in order and the value of each key are all that
there is to metadata with distinct keys.
-/

namespace Rulebook.Frontmatter.Metadata

/-! ### Binding a key -/

private theorem lookup_cons_eq_ite (k : String) (e : String × Value) (es : List (String × Value)) :
    (e :: es).lookup k = if k = e.1 then some e.2 else es.lookup k := by
  rw [List.lookup_cons]
  by_cases hk : k = e.1
  · rw [if_pos hk, beq_iff_eq.mpr hk]
  · rw [if_neg hk, beq_eq_false_iff_ne.mpr hk]

private theorem lookup_bind (key k : String) (value : Value) (es : List (String × Value)) :
    (bind key value es).lookup k = if k = key then some value else es.lookup k := by
  induction es with
  | nil => exact lookup_cons_eq_ite k (key, value) []
  | cons e es ih =>
    rw [bind]
    split
    · next he =>
      rw [lookup_cons_eq_ite, lookup_cons_eq_ite]
      split
      · rfl
      · next hk => rw [if_neg (he ▸ hk)]
    · next he =>
      rw [lookup_cons_eq_ite, lookup_cons_eq_ite, ih]
      by_cases hk : k = key
      · rw [if_neg (fun h => he (h.symm.trans hk)), if_pos hk, if_pos hk]
      · rw [if_neg hk, if_neg hk]

/-- Binding a key changes the value of that key only. -/
theorem get?_set (m : Metadata) (key k : String) (value : Value) :
    (m.set key value).get? k = if k = key then some value else m.get? k :=
  lookup_bind key k value m.entries

@[simp] theorem get?_set_self (m : Metadata) (key : String) (value : Value) :
    (m.set key value).get? key = some value := by
  rw [get?_set, if_pos rfl]

theorem get?_set_of_ne (m : Metadata) {key k : String} (h : k ≠ key) (value : Value) :
    (m.set key value).get? k = m.get? k := by
  rw [get?_set, if_neg h]

private theorem bind_append {key : String} {es : List (String × Value)}
    (h : key ∉ es.map Prod.fst) (value : Value) (fs : List (String × Value)) :
    bind key value (es ++ fs) = es ++ bind key value fs := by
  induction es with
  | nil => rfl
  | cons e es ih =>
    have he : e.1 ≠ key := Ne.symm (List.ne_of_not_mem_cons h)
    have hes : key ∉ es.map Prod.fst := List.not_mem_of_not_mem_cons h
    rw [List.cons_append, bind, if_neg he, ih hes, List.cons_append]

private theorem map_fst_bind (key : String) (value : Value) (es : List (String × Value)) :
    (bind key value es).map Prod.fst =
      if key ∈ es.map Prod.fst then es.map Prod.fst else es.map Prod.fst ++ [key] := by
  induction es with
  | nil => simp [bind]
  | cons e es ih =>
    rw [bind]
    split
    · next he => simp [he]
    · next he =>
      rw [List.map_cons, ih, List.map_cons]
      by_cases hk : key ∈ es.map Prod.fst
      · rw [if_pos hk, if_pos (List.mem_cons_of_mem _ hk)]
      · rw [if_neg hk, if_neg (List.not_mem_cons_of_ne_of_not_mem (Ne.symm he) hk),
          List.cons_append]

/-- A known key keeps its position, and a new one goes to the end. -/
theorem keys_set (m : Metadata) (key : String) (value : Value) :
    (m.set key value).keys = if key ∈ m.keys then m.keys else m.keys ++ [key] :=
  map_fst_bind key value m.entries

/-- A new key goes to the end. -/
theorem set_of_notMem {m : Metadata} {key : String} (h : key ∉ m.keys) (value : Value) :
    m.set key value = ⟨m.entries ++ [(key, value)]⟩ :=
  congrArg mk ((congrArg _ (List.append_nil _).symm).trans (bind_append h value []))

/-- The keys are those that have a value. -/
theorem isSome_get?_iff (m : Metadata) (k : String) : (m.get? k).isSome ↔ k ∈ m.keys := by
  rw [get?, keys, List.lookup_isSome_iff, List.mem_map]
  exact exists_congr fun e => and_congr_right fun _ => beq_iff_eq.trans eq_comm

/-! ### Adding an item -/

/-- An item goes to the end of the list that its key holds. -/
theorem get?_append_self {m : Metadata} {key : String} {items : List Value}
    (h : m.get? key = some (.list items)) (item : Value) :
    (m.append key item).get? key = some (.list (items ++ [item])) := by
  rw [append_eq, h, get?_set_self]

/-- Adding an item to one key leaves the others alone. -/
theorem get?_append_of_ne (m : Metadata) {key k : String} (h : k ≠ key) (item : Value) :
    (m.append key item).get? k = m.get? k := by
  rw [append_eq]
  split
  · exact get?_set_of_ne m h _
  · rfl

private theorem lookup_eq_none {k : String} {es : List (String × Value)}
    (h : k ∉ es.map Prod.fst) : es.lookup k = none := by
  rw [List.lookup_eq_none_iff]
  exact fun e he => bne_iff_ne.mpr fun hk => h (List.mem_map.mpr ⟨e, he, hk.symm⟩)

/-- An item for the last entry goes to the end of its list. -/
theorem append_concat {key : String} {es : List (String × Value)} (h : key ∉ es.map Prod.fst)
    (items : List Value) (item : Value) :
    append ⟨es ++ [(key, .list items)]⟩ key item = ⟨es ++ [(key, .list (items ++ [item]))]⟩ := by
  have hget : get? ⟨es ++ [(key, .list items)]⟩ key = some (.list items) := by
    rw [get?, List.lookup_append, lookup_eq_none h, lookup_cons_eq_ite, if_pos rfl]
    rfl
  have hbind : bind key (.list (items ++ [item])) (es ++ [(key, .list items)]) =
      es ++ [(key, .list (items ++ [item]))] := by
    rw [bind_append h, bind, if_pos rfl]
  rw [append_eq, hget]
  exact congrArg mk hbind

/-- Adding an item binds no new key. -/
@[simp] theorem keys_append (m : Metadata) (key : String) (item : Value) :
    (m.append key item).keys = m.keys := by
  rw [append_eq]
  split
  · next items h =>
    rw [keys_set, if_pos ((isSome_get?_iff m key).mp (by rw [h]; rfl))]
  · rfl

/-! ### Extensionality -/

private theorem entries_ext {es fs : List (String × Value)} (hn : (es.map Prod.fst).Nodup)
    (hk : es.map Prod.fst = fs.map Prod.fst) (hg : ∀ k, es.lookup k = fs.lookup k) : es = fs := by
  induction es generalizing fs with
  | nil => exact (List.map_eq_nil_iff.mp hk.symm).symm
  | cons e es ih =>
    match fs, hk, hg with
    | f :: fs, hk, hg =>
      obtain ⟨he, hes⟩ := List.cons_eq_cons.mp hk
      obtain ⟨hnot, hn⟩ := List.nodup_cons.mp hn
      have hval : e.2 = f.2 := by
        have h := hg e.1
        rw [lookup_cons_eq_ite, lookup_cons_eq_ite, if_pos rfl, if_pos he] at h
        exact Option.some.inj h
      have hrest : ∀ k, es.lookup k = fs.lookup k := by
        intro k
        by_cases hke : k = e.1
        · -- the key of the first entry has no second one
          rw [hke, lookup_eq_none hnot, lookup_eq_none (hes ▸ hnot)]
        · have h := hg k
          rwa [lookup_cons_eq_ite, lookup_cons_eq_ite, if_neg hke, if_neg (he ▸ hke)] at h
      rw [ih hn hes hrest, Prod.ext he hval]

/-- Metadata with distinct keys is its keys in order and the value of each. -/
theorem ext_of_get? {m n : Metadata} (hm : m.keys.Nodup) (hk : m.keys = n.keys)
    (hg : ∀ k, m.get? k = n.get? k) : m = n := by
  obtain ⟨es⟩ := m
  obtain ⟨fs⟩ := n
  exact congrArg Metadata.mk (entries_ext hm hk hg)

end Rulebook.Frontmatter.Metadata
