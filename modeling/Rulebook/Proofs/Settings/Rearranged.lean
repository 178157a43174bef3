import Rulebook.Proofs.Settings.Accepted
import Rulebook.Proofs.Yaml.Rearranged

/-!
# Settings files with their entries in another order

If the entries of a settings file come in another order, the same is asked of its values, and they
break the same keywords at the same places. The same is told about them, unless it is about a value
that has the whole mapping in it, which is shown with the entries in their order.

**Main facts.** `Violates.renumber`, `Violates.exists_of_renumber`: the violations are the same.
`cause_of_not_contains`, `cause_root`: what is told is the same. `load_of_rearranged`: the same
settings are loaded.
-/

namespace Rulebook.Settings

open Yaml Document

variable {f : Nat → Nat} {d d' : Document} {place : Place} {k : Keyword} {v : Value}

private theorem unknownKeys_renumber {entries : List (Scalar × Value)} :
    Schema.unknownKeys (entries.map (renumberEntry f)) = Schema.unknownKeys entries := by
  rw [Schema.unknownKeys, Schema.unknownKeys, List.map_map]
  rfl

variable (h : Rearranges f d d')

include h

/-! ### Violations -/

private theorem isOfKind_renumber_iff {kind : Kind} :
    IsOfKind d' (v.renumber f) kind ↔ IsOfKind d v kind := by
  cases kind with
  | object =>
    constructor
    · rintro ⟨entries', hentries'⟩
      obtain ⟨entries, hentries, -⟩ := h.exists_mapping_of_renumber hentries'
      exact ⟨entries, hentries⟩
    · rintro ⟨entries, hentries⟩
      obtain ⟨entries', hentries', -⟩ := h.exists_mapping hentries
      exact ⟨entries', hentries'⟩
  | array =>
    constructor
    · rintro ⟨items', hitems'⟩
      obtain ⟨items, hitems, -⟩ := h.collection?_eq_list_iff.mp hitems'
      exact ⟨items, hitems⟩
    · rintro ⟨items, hitems⟩
      exact ⟨_, h.collection?_eq_list_iff.mpr ⟨items, hitems, rfl⟩⟩
  | string => exact exists_congr fun s => Value.renumber_eq_scalar_iff
  | boolean => exact exists_congr fun b => Value.renumber_eq_scalar_iff

/-- The same keywords are broken. -/
private theorem isBrokenBy_renumber_iff : k.IsBrokenBy d' (v.renumber f) ↔ k.IsBrokenBy d v := by
  cases k with
  | ofKind kind => exact not_congr (isOfKind_renumber_iff h)
  | noOtherKeys =>
    constructor
    · rintro ⟨entries', hentries', hne⟩
      obtain ⟨entries, hentries, hperm⟩ := h.exists_mapping_of_renumber hentries'
      refine ⟨entries, hentries, fun hnil => hne ?_⟩
      have hkeys := Schema.unknownKeys_perm_of_perm (map_fst_perm hperm)
      exact (hnil ▸ hkeys).eq_nil
    · rintro ⟨entries, hentries, hne⟩
      obtain ⟨entries', hentries', hperm⟩ := h.exists_mapping hentries
      refine ⟨entries', hentries', fun hnil => hne ?_⟩
      have hkeys := Schema.unknownKeys_perm_of_perm (map_fst_perm hperm)
      exact (hnil ▸ hkeys).symm.eq_nil
  | pattern => exact exists_congr fun s => and_congr_left' Value.renumber_eq_scalar_iff
  | nonemptyText => exact Value.renumber_eq_scalar_iff
  | nonemptyList =>
    refine h.collection?_eq_list_iff.trans ⟨?_, fun hnil => ⟨[], hnil, rfl⟩⟩
    rintro ⟨items, hitems, hnil⟩
    obtain rfl := List.map_eq_nil_iff.mp hnil.symm
    exact hitems

/-- The same is asked of every value. -/
theorem Subject.renumber {schema : Subschema} (hv : Subject d place v schema) :
    Subject d' place (v.renumber f) schema := by
  cases hv with
  | root =>
    rw [← h.root]
    exact .root
  | field hroot hv =>
    obtain ⟨entries', hroot', hperm⟩ := h.exists_mapping hroot
    rw [← h.root] at hroot'
    exact .field hroot' ((mem_iff_of_perm hperm).mpr ⟨_, hv, rfl⟩)
  | member hroot hv hitems hi hschema =>
    obtain ⟨entries', hroot', hperm⟩ := h.exists_mapping hroot
    rw [← h.root] at hroot'
    refine .member hroot' ((mem_iff_of_perm hperm).mpr ⟨_, hv, rfl⟩)
      (h.collection?_eq_list_iff.mpr ⟨_, hitems, rfl⟩) ?_ hschema
    rw [List.getElem?_map, hi]
    rfl

/-- Nothing is asked of any other value. -/
theorem Subject.exists_of_renumber {schema : Subschema} {v' : Value}
    (hv : Subject d' place v' schema) :
    ∃ v, v' = v.renumber f ∧ Subject d place v schema := by
  have hold {entries' : List (Scalar × Value)} {key : Scalar} {v' : Value}
      (hroot' : d'.collection? d'.root = some (.mapping entries')) (hv' : (key, v') ∈ entries') :
      ∃ entries v, d.collection? d.root = some (.mapping entries) ∧ (key, v) ∈ entries ∧
        v' = v.renumber f := by
    rw [h.root] at hroot'
    obtain ⟨entries, hroot, hperm⟩ := h.exists_mapping_of_renumber hroot'
    obtain ⟨v, hv, rfl⟩ := (mem_iff_of_perm hperm).mp hv'
    exact ⟨entries, v, hroot, hv, rfl⟩
  cases hv with
  | root => exact ⟨d.root, h.root, .root⟩
  | field hroot' hv' =>
    obtain ⟨entries, v, hroot, hv, rfl⟩ := hold hroot' hv'
    exact ⟨v, rfl, .field hroot hv⟩
  | member hroot' hv' hitems' hi' hschema =>
    obtain ⟨entries, v, hroot, hv, rfl⟩ := hold hroot' hv'
    obtain ⟨items, hitems, rfl⟩ := h.collection?_eq_list_iff.mp hitems'
    rw [List.getElem?_map] at hi'
    obtain ⟨item, hi, rfl⟩ := Option.map_eq_some_iff.mp hi'
    exact ⟨item, rfl, .member hroot hv hitems hi hschema⟩

theorem Violates.renumber (hv : Violates d place k v) : Violates d' place k (v.renumber f) := by
  obtain ⟨schema, hsubject, hasks, hbroken⟩ := hv
  exact ⟨schema, hsubject.renumber h, hasks, (isBrokenBy_renumber_iff h).mpr hbroken⟩

theorem Violates.exists_of_renumber {v' : Value} (hv : Violates d' place k v') :
    ∃ v, Violates d place k v := by
  obtain ⟨schema, hsubject', hasks, hbroken⟩ := hv
  obtain ⟨v, rfl, hsubject⟩ := hsubject'.exists_of_renumber h
  exact ⟨v, schema, hsubject, hasks, (isBrokenBy_renumber_iff h).mp hbroken⟩

/-! ### What is told -/

/-- What is told about a value does not change, if it does not contain the root mapping. -/
theorem cause_of_not_contains (hv : ¬ d.Contains d.root v) :
    k.cause d' (v.renumber f) = k.cause d v := by
  cases k with
  | noOtherKeys =>
    have hne : v ≠ d.root := fun hroot => hv (hroot ▸ .self)
    have hkeys : Schema.unknownKeys ((Schema.entries? d' (v.renumber f)).getD []) =
        Schema.unknownKeys ((Schema.entries? d v).getD []) := by
      rw [Schema.entries?, Schema.entries?, h.collection?_of_ne hne]
      cases d.collection? v with
      | none => rfl
      | some c =>
        cases c with
        | mapping entries => exact unknownKeys_renumber
        | list => rfl
        | set => rfl
    rw [Keyword.cause, Keyword.cause, hkeys]
  | _ => rw [Keyword.cause, Keyword.cause, h.render_eq hv]

/-- What is told about the root mapping does not change, if its keys are texts. -/
theorem cause_root {entries : List (Scalar × Value)}
    (hroot : d.collection? d.root = some (.mapping entries))
    (htext : ∀ entry ∈ entries, ∃ s, entry.1 = .text s) (hv : Violates d [] k v) :
    k.cause d' (v.renumber f) = k.cause d v := by
  obtain ⟨schema, hsubject, hasks, hbroken⟩ := hv
  cases hsubject
  -- it is a mapping, so only its keys can be wrong
  rcases hasks with rfl | hk
  · exact absurd ⟨entries, hroot⟩ hbroken
  · obtain rfl := Option.some.inj hk
    obtain ⟨entries', hroot', hperm⟩ := h.exists_mapping hroot
    have hkeys := Schema.unknownKeys_eq_of_perm (map_fst_perm hperm).symm htext
    rw [Keyword.cause, Keyword.cause, entries?_eq_some_iff.mpr hroot,
      entries?_eq_some_iff.mpr hroot', Option.getD_some, Option.getD_some, hkeys]

/-! ### What is taken over -/

theorem Datum.IsGivenBy.renumber {x : Datum} (hx : x.IsGivenBy d v) :
    x.IsGivenBy d' (v.renumber f) := by
  cases x with
  | text s => exact Value.renumber_eq_scalar_iff.mpr hx
  | flag b => exact Value.renumber_eq_scalar_iff.mpr hx
  | texts ss =>
    refine h.collection?_eq_list_iff.mpr ⟨_, hx, ?_⟩
    rw [List.map_map]
    rfl

theorem Fits.renumber {entries entries' : List (Scalar × Value)} (hfits : Fits d entries)
    (hperm : entries'.Perm (entries.map (renumberEntry f))) : Fits d' entries' := by
  intro key v' hv'
  obtain ⟨v, hv, rfl⟩ := (mem_iff_of_perm hperm).mp hv'
  obtain ⟨field, x, hname, hgiven, hadmits⟩ := hfits key v hv
  exact ⟨field, x, hname, hgiven.renumber h, hadmits⟩

/-- The same is merged. -/
private theorem AreMerged.eq_of_perm {entries entries' : List (Scalar × Value)}
    {base s s' : Settings}
    (hfits : Fits d entries) (hperm : entries'.Perm (entries.map (renumberEntry f)))
    (hs : AreMerged d entries base s) (hs' : AreMerged d' entries' base s') : s = s' := by
  refine ext_get fun field => ?_
  by_cases hnamed : ∃ v, (.text field.name, v) ∈ entries
  · obtain ⟨v, hv⟩ := hnamed
    obtain ⟨other, x, -, hgiven, -⟩ := hfits _ v hv
    have hv' : (.text field.name, v.renumber f) ∈ entries' :=
      (mem_iff_of_perm hperm).mpr ⟨v, hv, rfl⟩
    rw [hs.given field v x hv hgiven, hs'.given field _ x hv' (hgiven.renumber h)]
  · rw [hs.kept field (not_exists.mp hnamed), hs'.kept field fun v' hv' => hnamed ?_]
    obtain ⟨v, hv, -⟩ := (mem_iff_of_perm hperm).mp hv'
    exact ⟨v, hv⟩

/-- **The same settings** are loaded. -/
theorem load_of_rearranged {t t' : FileTree} {path : Path} {base s : Settings}
    (hread : IsReadAs t path d) (hread' : IsReadAs t' path d')
    (hs : load t (some path) base = .ok s) : load t' (some path) base = .ok s := by
  obtain ⟨old, new, hold, hnew, hperm⟩ := h.entries
  rcases hread.merged_of_load hs with ⟨hnull, -⟩ | ⟨entries, hroot, hfits, hmerged⟩
  · rw [hnull] at hold
    cases hold
  · obtain rfl := mapping_unique hroot hold
    obtain ⟨s', hs', hmerged'⟩ :=
      ofDocument_of_fits base hread'.hasDistinctKeys hnew (hfits.renumber h hperm)
    rw [hread'.load_of_ok base hs', hmerged.eq_of_perm h hfits hperm hmerged']

end Rulebook.Settings
