import Rulebook.Settings.Schema

/-!
# The keys that name no field

The keys of a settings file that name no field are told in order of their bare texts.

**Main facts.** `unknownKeys_perm`: they are the keys of the file that name no field.
`unknownKeys_eq_of_perm`: if all keys are texts, their order in the file does not matter.
-/

namespace Rulebook.Settings.Schema

open Yaml

variable {entries entries' : List (Scalar × Value)}

/-- The order in which keys are told. -/
def InOrder (a b : Scalar) : Prop :=
  a.plainText ≤ b.plainText

private theorem insertKey_perm (key : Scalar) (keys : List Scalar) :
    (insertKey key keys).Perm (key :: keys) := by
  induction keys with
  | nil => exact .refl _
  | cons k keys ih =>
    rw [insertKey]
    split
    · exact .refl _
    · exact (ih.cons k).trans (.swap key k keys)

private theorem insertKey_pairwise (key : Scalar) {keys : List Scalar} (h : keys.Pairwise InOrder) :
    (insertKey key keys).Pairwise InOrder := by
  induction keys with
  | nil => exact List.pairwise_singleton InOrder key
  | cons k keys ih =>
    obtain ⟨hk, hkeys⟩ := List.pairwise_cons.mp h
    rw [insertKey]
    split
    · next hlt =>
      have hkey : InOrder key k := String.not_lt.mp (String.lt_asymm hlt)
      refine List.pairwise_cons.mpr ⟨List.forall_mem_cons.mpr ⟨hkey, fun other hother => ?_⟩, h⟩
      exact String.le_trans hkey (hk other hother)
    · next hlt =>
      refine List.pairwise_cons.mpr ⟨fun other hother => ?_, ih hkeys⟩
      rcases List.mem_cons.mp ((insertKey_perm key keys).mem_iff.mp hother) with rfl | hother
      · exact String.not_lt.mp hlt
      · exact hk other hother

/-- Keys are inserted among others one after the other. -/
private theorem foldl_insertKey (keys sorted : List Scalar) :
    (keys.foldl (fun sorted key => insertKey key sorted) sorted).Perm (sorted ++ keys) ∧
      (sorted.Pairwise InOrder →
        (keys.foldl (fun sorted key => insertKey key sorted) sorted).Pairwise InOrder) := by
  induction keys generalizing sorted with
  | nil =>
    rw [List.append_nil]
    exact ⟨.refl _, id⟩
  | cons key keys ih =>
    obtain ⟨hperm, hsorted⟩ := ih (insertKey key sorted)
    refine ⟨hperm.trans ?_, fun h => hsorted (insertKey_pairwise key h)⟩
    exact ((insertKey_perm key sorted).append_right keys).trans List.perm_middle.symm

/-- **The keys that are told** are those that name no field. -/
theorem unknownKeys_perm (entries : List (Scalar × Value)) :
    (unknownKeys entries).Perm
      ((entries.map Prod.fst).filter fun key => (Field.ofKey? key).isNone) :=
  (foldl_insertKey _ []).1

private theorem unknownKeys_pairwise (entries : List (Scalar × Value)) :
    (unknownKeys entries).Pairwise InOrder :=
  (foldl_insertKey _ []).2 .nil

private theorem mem_unknownKeys_iff {key : Scalar} :
    key ∈ unknownKeys entries ↔ key ∈ entries.map Prod.fst ∧ Field.ofKey? key = none := by
  rw [(unknownKeys_perm entries).mem_iff, List.mem_filter, Option.isNone_iff_eq_none]

theorem unknownKeys_eq_nil_iff :
    unknownKeys entries = [] ↔ ∀ entry ∈ entries, ∃ field, Field.ofKey? entry.1 = some field := by
  rw [List.eq_nil_iff_forall_not_mem]
  simp only [mem_unknownKeys_iff, not_and, List.forall_mem_map, ← Option.ne_none_iff_exists', ne_eq]

/-- The same keys in another order have the same ones among them that name no field. -/
theorem unknownKeys_perm_of_perm (h : (entries.map Prod.fst).Perm (entries'.map Prod.fst)) :
    (unknownKeys entries).Perm (unknownKeys entries') :=
  (unknownKeys_perm entries).trans ((h.filter _).trans (unknownKeys_perm entries').symm)

/-- **The order of text keys in the file** does not matter. -/
theorem unknownKeys_eq_of_perm (h : (entries.map Prod.fst).Perm (entries'.map Prod.fst))
    (htext : ∀ entry ∈ entries, ∃ s, entry.1 = .text s) :
    unknownKeys entries = unknownKeys entries' := by
  have hperm := unknownKeys_perm_of_perm h
  have hkey {key : Scalar} (hkey : key ∈ unknownKeys entries) : ∃ s, key = .text s := by
    obtain ⟨entry, hentry, rfl⟩ := List.mem_map.mp (mem_unknownKeys_iff.mp hkey).1
    exact htext entry hentry
  refine List.Perm.eq_of_pairwise (fun a b ha hb hab hba => ?_) (unknownKeys_pairwise entries)
    (unknownKeys_pairwise entries') hperm
  -- a text is its own bare text
  obtain ⟨s, rfl⟩ := hkey ha
  obtain ⟨t, rfl⟩ := hkey (hperm.mem_iff.mpr hb)
  exact congrArg Scalar.text (String.le_antisymm hab hba)

end Rulebook.Settings.Schema
