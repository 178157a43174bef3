import Rulebook.Proofs.Settings.Rearranged

/-!
# The violation that is reported

Of all violations of a document, the one at the least place is reported. At one place there is at
most one, and two places of the schema can always be compared, so this singles out a violation that
does not depend on the order in which they are found.

If the entries of a file come in another order, its values break the same keywords at the same
places. So the same violation is reported, and it is told in the same words, unless they quote a
value that has the whole mapping in it. That value is shown with the entries in their order.

**Main fact.** `least_violation_is_reported` puts this together.
-/

namespace Rulebook.Settings

open Yaml Document

variable {d : Document} {place : Place} {k : Keyword} {v : Value}

/-! ### The least violation -/

/-- `IsLeast d place k v` means that the value `v` at a place breaks the keyword `k`, and that every
violation at another place is at a later one. -/
def IsLeast (d : Document) (place : Place) (k : Keyword) (v : Value) : Prop :=
  Violates d place k v ∧ ∀ place' k' v', Violates d place' k' v' →
    place' = place ∨ List.Lex Step.Precedes place place'

private theorem Subject.isOfSchema {schema : Subschema} (h : Subject d place v schema) :
    place.IsOfSchema := by
  cases h with
  | root => exact .root
  | field => exact .field _
  | member => exact .member _ _

private theorem Violates.isOfSchema (h : Violates d place k v) : place.IsOfSchema := by
  obtain ⟨schema, hsubject, -⟩ := h
  exact hsubject.isOfSchema

/-- A violation that has none before it is the least one. -/
private theorem isLeast_of_not_before (h : Violates d place k v)
    (hleast : ∀ place' k' v', Violates d place' k' v' → ¬ place'.before place = true) :
    IsLeast d place k v := by
  refine ⟨h, fun place' k' v' h' => ?_⟩
  by_cases hbefore : place.before place' = true
  · exact .inr ((Place.before_iff_lex_precedes h.isOfSchema h'.isOfSchema).mp hbefore)
  · exact .inl (Place.eq_of_not_before (hleast place' k' v' h') hbefore)

/-- There is one least violation. -/
private theorem IsLeast.unique (hd : d.HasDistinctKeys) (h : IsLeast d place k v) {place' : Place}
    {k' : Keyword} {v' : Value} (h' : IsLeast d place' k' v') :
    place = place' ∧ k = k' ∧ v = v' := by
  have hplace : place = place' := by
    rcases h.2 place' k' v' h'.1 with heq | hlex
    · exact heq.symm
    · rcases h'.2 place k v h.1 with heq | hlex'
      · exact heq
      · have hschema := h.1.isOfSchema
        have hschema' := h'.1.isOfSchema
        rw [← Place.before_iff_lex_precedes hschema hschema'] at hlex
        rw [← Place.before_iff_lex_precedes hschema' hschema] at hlex'
        exact absurd hlex' (Place.before_asymm hlex)
  subst hplace
  exact ⟨rfl, h.1.unique hd h'.1⟩

/-- What is told about a violation: the cause, and the place unless it is the document itself. -/
def Keyword.report (d : Document) (place : Place) (k : Keyword) (v : Value) : String :=
  (k.cause d v).message ++
    if place = [] then "" else " at " ++ ".".intercalate (place.map Step.text)

private theorem message_eq_report :
    (Violation.mk place (k.cause d v)).message = k.report d place v := by
  rw [Violation.message, Keyword.report]
  cases place with
  | nil => exact String.append_empty.symm
  | cons step place => exact String.append_assoc

/-- What becomes of a document that holds something: it is accepted if it has no violation, and
else the least one is found. -/
private theorem ofDocument_cases (base : Settings) (hnull : d.root ≠ .scalar .null) :
    ((∀ place k v, ¬ Violates d place k v) ∧ ∃ s, ofDocument base d = .ok s) ∨
      ∃ place k v, IsLeast d place k v ∧
        ofDocument base d = .error ⟨place, k.cause d v⟩ := by
  rw [ofDocument, if_neg hnull]
  cases hleast : Schema.least? (Schema.violations d) with
  | none =>
    have haccepted := violations_eq_nil_iff.mp (Schema.least?_eq_none_iff.mp hleast)
    exact .inl ⟨forall_not_violates_iff.mpr haccepted, _, rfl⟩
  | some w =>
    obtain ⟨hmem, hfirst⟩ := Schema.least?_eq_some hleast
    obtain ⟨k, v, hviolates, hcause⟩ := mem_violations_iff.mp hmem
    refine .inr ⟨w.place, k, v, isLeast_of_not_before hviolates fun place' k' v' h' => ?_, ?_⟩
    · exact hfirst ⟨place', k'.cause d v'⟩ (mem_violations_iff.mpr ⟨k', v', h', rfl⟩)
    · rw [← hcause]

/-- **The least violation** stays the least one. -/
theorem IsLeast.renumber {f : Nat → Nat} {d' : Document} (h : Rearranges f d d')
    (hv : IsLeast d place k v) :
    IsLeast d' place k (v.renumber f) := by
  refine ⟨hv.1.renumber h, fun place' k' v' h' => ?_⟩
  obtain ⟨old, hold⟩ := h'.exists_of_renumber h
  exact hv.2 place' k' old hold

/-! ### Files -/

section File

variable {t : FileTree} {path : Path} {entries : List (Scalar × Value)}

/-- What becomes of a file that holds something. -/
private theorem load_cases (hread : IsReadAs t path d) (hnull : d.root ≠ .scalar .null)
    (base : Settings) :
    ((∀ place k v, ¬ Violates d place k v) ∧ ∃ s, load t (some path) base = .ok s) ∨
      ∃ place k v, IsLeast d place k v ∧
        load t (some path) base = .error (.problem (.settings path (k.report d place v))) := by
  refine (ofDocument_cases base hnull).imp ?_ ?_
  · rintro ⟨hnone, s, hs⟩
    exact ⟨hnone, s, hread.load_of_ok base hs⟩
  · rintro ⟨place, k, v, hleast, hv⟩
    refine ⟨place, k, v, hleast, ?_⟩
    rw [hread.load_of_error base hv, message_eq_report]

/-- The least violation is what the file is refused for. -/
private theorem IsLeast.load_eq (hread : IsReadAs t path d) (hnull : d.root ≠ .scalar .null)
    (h : IsLeast d place k v) (base : Settings) :
    load t (some path) base = .error (.problem (.settings path (k.report d place v))) := by
  rcases load_cases hread hnull base with ⟨hnone, -⟩ | ⟨place', k', v', h', hload⟩
  · exact absurd h.1 (hnone place k v)
  · obtain ⟨rfl, rfl, rfl⟩ := h.unique hread.hasDistinctKeys h'
    exact hload

/-- **The least violation is reported.** A mapping with text keys has at most one violation at a
place. If it has none, the file is accepted, and else it is refused for the least one, which is told
with its place. With the entries in another order the same settings are loaded, or the violation
that is least is the same one; then the same is told, unless it is about a field or a member of one
that contains the mapping itself. -/
theorem least_violation_is_reported (hread : IsReadAs t path d)
    (hroot : d.collection? d.root = some (.mapping entries))
    (htext : ∀ entry ∈ entries, ∃ s, entry.1 = .text s) (base : Settings) :
    (∀ place j k v w, Violates d place j v → Violates d place k w → j = k ∧ v = w) ∧
    (((∀ place k v, ¬ Violates d place k v) ∧ ∃ s, load t (some path) base = .ok s) ∨
      ∃ place k v, IsLeast d place k v ∧
        load t (some path) base = .error (.problem (.settings path (k.report d place v)))) ∧
    ∀ t' d' f, IsReadAs t' path d' → d.Rearranges f d' →
      (∀ s, load t (some path) base = .ok s ↔ load t' (some path) base = .ok s) ∧
      ∀ place k v, IsLeast d place k v →
        IsLeast d' place k (v.renumber f) ∧
          (place = [] ∨ ¬ d.Contains d.root v →
            load t' (some path) base = load t (some path) base) := by
  have hnull := root_ne_null hroot
  refine ⟨fun place j k v w => Violates.unique hread.hasDistinctKeys, load_cases hread hnull base,
    fun t' d' f hread' h => ?_⟩
  obtain ⟨entries', hroot', -⟩ := h.exists_mapping hroot
  rw [← h.root] at hroot'
  have hnull' := root_ne_null hroot'
  refine ⟨fun s => ⟨load_of_rearranged h hread hread', fun hs' => ?_⟩, ?_⟩
  · rcases load_cases hread hnull base with ⟨-, s', hs⟩ | ⟨place, k, v, hleast, -⟩
    · rw [load_of_rearranged h hread hread' hs] at hs'
      rw [hs, hs']
    · rw [(hleast.renumber h).load_eq hread' hnull' base] at hs'
      cases hs'
  · intro place k v hleast
    refine ⟨hleast.renumber h, fun hquoted => ?_⟩
    have hcause : k.cause d' (v.renumber f) = k.cause d v := by
      rcases hquoted with rfl | hcontains
      · exact cause_root h hroot htext hleast.1
      · exact cause_of_not_contains h hcontains
    rw [hleast.load_eq hread hnull base,
      (hleast.renumber h).load_eq hread' hnull' base, Keyword.report,
      Keyword.report, hcause]

/-- Two keys that name no field, in one order and in the other. -/
theorem least_violation_is_reported_of_unknown_keys :
    let path : Path := ⟨.current, ["lint.yaml"]⟩
    let t := settingsTree ['c', ':', ' ', '1', '\n', 'b', ':', ' ', '2']
    let t' := settingsTree ['b', ':', ' ', '2', '\n', 'c', ':', ' ', '1']
    load t (some path) = .error (.problem (.settings path
        "Additional properties are not allowed ('b', 'c' were unexpected)")) ∧
      load t' (some path) = load t (some path) := by
  intro path t t'
  generalize hb : (Scalar.text "b", Value.scalar (.integer 2)) = b
  generalize hc : (Scalar.text "c", Value.scalar (.integer 1)) = c
  have hread : IsReadAs t path (ofEntries [c, b]) := by
    have hparse : Document.parse "c: 1\nb: 2" = .ok (ofEntries [c, b]) := by
      subst hb hc
      rfl
    exact settingsTree_isReadAs (by rfl) hparse
  have hread' : IsReadAs t' path (ofEntries [b, c]) := by
    have hparse : Document.parse "b: 2\nc: 1" = .ok (ofEntries [b, c]) := by
      subst hb hc
      rfl
    exact settingsTree_isReadAs (by rfl) hparse
  have htext : ∀ entry ∈ [c, b], ∃ s, entry.1 = .text s := by
    subst hb hc
    exact List.forall_mem_cons.mpr ⟨⟨"c", rfl⟩, List.forall_mem_singleton.mpr ⟨"b", rfl⟩⟩
  have hunknown (field : Field) (v : Value) : (.text field.name, v) ∉ [c, b] := by
    subst hb hc
    cases field <;> simp [Field.name]
  have hrearranged := rearranges_ofEntries (List.Perm.swap c b [])
  have hload : load t (some path) = .error (.problem (.settings path
      "Additional properties are not allowed ('b', 'c' were unexpected)")) := by
    have herror : ofDocument {} (ofEntries [c, b]) = .error ⟨[], .unknownKeys ["'b'", "'c'"]⟩ := by
      subst hb hc
      decide +kernel
    rw [hread.load_of_error {} herror]
    rfl
  refine ⟨hload, ?_⟩
  obtain ⟨-, hcases, hrearrange⟩ := least_violation_is_reported hread rfl htext {}
  rcases hcases with ⟨-, s, hs⟩ | ⟨place, k, v, hleast, -⟩
  · rw [hload] at hs
    cases hs
  · have hplace : place = [] := by
      obtain ⟨⟨schema, hsubject, -⟩, -⟩ := hleast
      cases hsubject with
      | root => rfl
      | field hroot hv =>
        obtain rfl := Collection.mapping.inj (Option.some.inj hroot)
        exact absurd hv (hunknown _ _)
      | member hroot hv =>
        obtain rfl := Collection.mapping.inj (Option.some.inj hroot)
        exact absurd hv (hunknown _ _)
    exact ((hrearrange t' _ id hread' hrearranged).2 place k v hleast).2 (.inl hplace)

/-- The entry that gives the first mapping of a document as the extension. -/
def selfEntry : Scalar × Value :=
  (.text "extension", .collection 0)

/-- The entry that switches strictness on. -/
def strictEntry : Scalar × Value :=
  (.text "strict", .scalar (.flag true))

/-- **A mapping that is its own extension** is told about with its entries in their order. -/
theorem self_containing_mapping_is_shown_in_order :
    let path : Path := ⟨.current, ["lint.yaml"]⟩
    let t := settingsTree
      ['&', 'a', ' ', '{', 's', 't', 'r', 'i', 'c', 't', ':', ' ', 't', 'r', 'u', 'e', ',', ' ',
       'e', 'x', 't', 'e', 'n', 's', 'i', 'o', 'n', ':', ' ', '*', 'a', '}']
    let t' := settingsTree
      ['&', 'a', ' ', '{', 'e', 'x', 't', 'e', 'n', 's', 'i', 'o', 'n', ':', ' ', '*', 'a', ',',
       ' ', 's', 't', 'r', 'i', 'c', 't', ':', ' ', 't', 'r', 'u', 'e', '}']
    let d := ofEntries [strictEntry, selfEntry]
    let d' := ofEntries [selfEntry, strictEntry]
    IsReadAs t path d ∧ IsReadAs t' path d' ∧ d.Rearranges id d' ∧
      load t (some path) = .error (.problem (.settings path
        "\x7b'strict': True, 'extension': \x7b...\x7d\x7d is not of type 'string' at extension")) ∧
      load t' (some path) = .error (.problem (.settings path
        "\x7b'extension': \x7b...\x7d, 'strict': True\x7d is not of type 'string' at extension")) := by
  intro path t t' d d'
  have hread : IsReadAs t path d := by
    have hparse : Document.parse "&a \x7bstrict: true, extension: *a\x7d" = .ok d := by rfl
    exact settingsTree_isReadAs (by rfl) hparse
  have hread' : IsReadAs t' path d' := by
    have hparse : Document.parse "&a \x7bextension: *a, strict: true\x7d" = .ok d' := by rfl
    exact settingsTree_isReadAs (by rfl) hparse
  have hstrict : Text.quote "strict" = "'strict'" := by decide +kernel
  have hextension : Text.quote "extension" = "'extension'" := by decide +kernel
  have hshown : d.render d.root = "\x7b'strict': True, 'extension': \x7b...\x7d\x7d" := by
    simp [d, ofEntries, strictEntry, selfEntry, render, renderWithin, renderEntries, Scalar.render,
      hstrict, hextension]
  have hshown' : d'.render d'.root = "\x7b'extension': \x7b...\x7d, 'strict': True\x7d" := by
    simp [d', ofEntries, strictEntry, selfEntry, render, renderWithin, renderEntries, Scalar.render,
      hstrict, hextension]
  refine ⟨hread, hread', rearranges_ofEntries (.swap _ _ _), ?_, ?_⟩
  · have herror : ofDocument {} d =
        .error ⟨[.field "extension"], .notOfKind (d.render d.root) .string⟩ := by rfl
    rw [hread.load_of_error {} herror, hshown]
    rfl
  · have herror : ofDocument {} d' =
        .error ⟨[.field "extension"], .notOfKind (d'.render d'.root) .string⟩ := by rfl
    rw [hread'.load_of_error {} herror, hshown']
    rfl

end File

end Rulebook.Settings
