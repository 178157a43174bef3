import Rulebook.FileTree.Edit
import Rulebook.Proofs.Settings.Keywords
import Rulebook.Proofs.Settings.Least
import Rulebook.Proofs.Settings.Legible
import Rulebook.Proofs.Settings.UnknownKeys

/-!
# What is accepted, and what it changes

A settings file gives data to fields. A `Datum` is what a setting can be, `Datum.IsGivenBy` says
which value of a document stands for it, and `Field.Admits` says which data a field may have.

**Main facts.** `forall_not_violates_iff`: a document has no violation just when every entry of it
gives a field something that the field admits. `ofDocument_of_fits`: then these fields are set, and
the others keep what they have. `load_admits`: so a field that had something admitted keeps having
it. `load_follows_schema` puts together how a file is loaded.
-/

namespace Rulebook.Settings

open Yaml Document

/-! ### Data -/

/-- What a setting can be. -/
inductive Datum where
  | text (s : String)
  | flag (b : Bool)
  | texts (ss : List String)
  deriving DecidableEq, Repr

/-- Whether a value stands for a datum. A list stands for texts when its members do, in order. -/
def Datum.IsGivenBy (d : Document) (v : Value) : Datum → Prop
  | text s => v = .scalar (.text s)
  | flag b => v = .scalar (.flag b)
  | texts ss => d.collection? v = some (.list (ss.map fun s => .scalar (.text s)))

/-- A value stands for one datum only. -/
private theorem Datum.IsGivenBy.unique {d : Document} {v : Value} {x y : Datum}
    (hx : x.IsGivenBy d v) (hy : y.IsGivenBy d v) : x = y := by
  have hcollection (s : Scalar) (c : Collection) : d.collection? (.scalar s) ≠ some c :=
    (Option.some_ne_none c).symm
  cases x with
  | text s =>
    obtain rfl : v = .scalar (.text s) := hx
    cases y with
    | text s' => exact congrArg text (Scalar.text.inj (Value.scalar.inj hy))
    | flag b => cases hy
    | texts ss => exact absurd hy (hcollection _ _)
  | flag b =>
    obtain rfl : v = .scalar (.flag b) := hx
    cases y with
    | text s => cases hy
    | flag b' => exact congrArg flag (Scalar.flag.inj (Value.scalar.inj hy))
    | texts ss => exact absurd hy (hcollection _ _)
  | texts ss =>
    cases y with
    | text s =>
      obtain rfl : v = .scalar (.text s) := hy
      exact absurd hx (hcollection _ _)
    | flag b =>
      obtain rfl : v = .scalar (.flag b) := hy
      exact absurd hx (hcollection _ _)
    | texts ss' =>
      have hlists := list_unique hx hy
      refine congrArg texts (List.map_injective_iff.mpr (fun a b hab => ?_) hlists)
      exact Scalar.text.inj (Value.scalar.inj hab)

/-- The data that a field may have. -/
def Field.Admits : Field → Datum → Prop
  | extension, .text s => ∃ word, extensionPattern.first? s.toList = some word
  | skillsSegment, .text s => s ≠ ""
  | strict, .flag _ => True
  | sharedRulesArea, .texts ss => ss ≠ [] ∧ "" ∉ ss
  | exemptFilenames, .texts ss => "" ∉ ss
  | knownKeys, .texts ss => "" ∉ ss
  | catchAllPatterns, .texts ss => "" ∉ ss
  | _, _ => False

/-- What a field has. -/
def get (s : Settings) : Field → Datum
  | .extension => .text s.extension
  | .exemptFilenames => .texts s.exemptFilenames
  | .skillsSegment => .text s.skillsSegment
  | .sharedRulesArea => .texts s.sharedRulesArea
  | .strict => .flag s.strict
  | .knownKeys => .texts s.knownKeys
  | .catchAllPatterns => .texts s.catchAllPatterns

/-- Settings are what their fields have. -/
theorem ext_get {s s' : Settings} (h : ∀ field, s.get field = s'.get field) : s = s' := by
  cases s
  cases s'
  have hextension := h .extension
  have hexempt := h .exemptFilenames
  have hskills := h .skillsSegment
  have hshared := h .sharedRulesArea
  have hstrict := h .strict
  have hknown := h .knownKeys
  have hcatch := h .catchAllPatterns
  simp only [get, Datum.text.injEq, Datum.texts.injEq, Datum.flag.injEq] at *
  subst hextension hexempt hskills hshared hstrict hknown hcatch
  rfl

/-! ### The values that are accepted -/

/-- A value **meets** what is asked of it when it breaks none of the keywords. -/
def Subschema.IsMetBy (schema : Subschema) (d : Document) (v : Value) : Prop :=
  ∀ k, schema.Asks k → ¬ k.IsBrokenBy d v

/-- The value of a field **meets** what is asked of it when it does so itself and, if it is a list,
so do its members. -/
def Field.IsMetBy (field : Field) (d : Document) (v : Value) : Prop :=
  field.schema.IsMetBy d v ∧ ∀ member ∈ field.memberSchema?, ∀ items,
    d.collection? v = some (.list items) → ∀ item ∈ items, member.IsMetBy d item

section Value

variable {d : Document} {v : Value}

private theorem Subschema.isMetBy_iff {schema : Subschema} :
    schema.IsMetBy d v ↔ IsOfKind d v schema.kind ∧ ∀ k ∈ schema.more?, ¬ k.IsBrokenBy d v := by
  constructor
  · intro h
    exact ⟨not_not.mp (h _ (.inl rfl)), fun k hk => h k (.inr hk)⟩
  · rintro ⟨hkind, hmore⟩ k (rfl | hk)
    · exact not_not.mpr hkind
    · exact hmore k hk

private theorem textSchema_isMetBy_iff :
    textSchema.IsMetBy d v ↔ ∃ s, v = .scalar (.text s) ∧ s ≠ "" := by
  rw [Subschema.isMetBy_iff]
  constructor
  · rintro ⟨⟨s, rfl⟩, hmore⟩
    refine ⟨s, rfl, ?_⟩
    rintro rfl
    exact hmore .nonemptyText rfl rfl
  · rintro ⟨s, rfl, hs⟩
    refine ⟨⟨s, rfl⟩, ?_⟩
    rintro _ ⟨⟩ hempty
    exact hs (Scalar.text.inj (Value.scalar.inj hempty))

private theorem listSchema_isMetBy_iff {nonempty : Bool} :
    (listSchema nonempty).IsMetBy d v ↔
      ∃ items, d.collection? v = some (.list items) ∧ (nonempty = true → items ≠ []) := by
  rw [Subschema.isMetBy_iff]
  constructor
  · rintro ⟨⟨items, hitems⟩, hmore⟩
    refine ⟨items, hitems, ?_⟩
    rintro rfl rfl
    exact hmore .nonemptyList rfl hitems
  · rintro ⟨items, hitems, hne⟩
    refine ⟨⟨items, hitems⟩, fun k hk => ?_⟩
    cases nonempty with
    | false => cases hk
    | true =>
      obtain rfl := Option.some.inj hk
      intro hempty
      exact hne rfl (list_unique hitems hempty)

/-- Values that are all texts, none of them empty, stand for a list of texts. -/
private theorem exists_map_text_iff {items : List Value} :
    (∀ item ∈ items, ∃ s, item = .scalar (.text s) ∧ s ≠ "") ↔
      ∃ ss : List String, items = ss.map (fun s => .scalar (.text s)) ∧ "" ∉ ss := by
  constructor
  · intro h
    induction items with
    | nil => exact ⟨[], rfl, List.not_mem_nil⟩
    | cons item items ih =>
      obtain ⟨⟨s, rfl, hs⟩, hitems⟩ := List.forall_mem_cons.mp h
      obtain ⟨ss, rfl, hss⟩ := ih hitems
      exact ⟨s :: ss, rfl, List.mem_cons.not.mpr (not_or.mpr ⟨hs.symm, hss⟩)⟩
  · rintro ⟨ss, rfl, hss⟩
    refine List.forall_mem_map.mpr fun s hs => ⟨s, rfl, ?_⟩
    rintro rfl
    exact hss hs

/-- A field with a list of texts. -/
private theorem isMetBy_texts_iff {field : Field} {nonempty : Bool}
    (hschema : field.schema = listSchema nonempty)
    (hmember : field.memberSchema? = some textSchema) :
    field.IsMetBy d v ↔
      ∃ ss, (Datum.texts ss).IsGivenBy d v ∧ (nonempty = true → ss ≠ []) ∧ "" ∉ ss := by
  rw [Field.IsMetBy, hschema, hmember, listSchema_isMetBy_iff]
  constructor
  · rintro ⟨⟨items, hitems, hne⟩, hmembers⟩
    have htexts : ∀ item ∈ items, ∃ s, item = .scalar (.text s) ∧ s ≠ "" := fun item hitem =>
      textSchema_isMetBy_iff.mp (hmembers textSchema rfl items hitems item hitem)
    obtain ⟨ss, rfl, hss⟩ := exists_map_text_iff.mp htexts
    exact ⟨ss, hitems, fun hnonempty hnil => hne hnonempty (List.map_eq_nil_iff.mpr hnil), hss⟩
  · rintro ⟨ss, hgiven, hne, hss⟩
    refine ⟨⟨_, hgiven, fun hnonempty hnil => hne hnonempty (List.map_eq_nil_iff.mp hnil)⟩, ?_⟩
    rintro _ ⟨⟩ items hitems item hitem
    obtain rfl := list_unique hgiven hitems
    exact textSchema_isMetBy_iff.mpr (exists_map_text_iff.mpr ⟨ss, rfl, hss⟩ item hitem)

/-- **The value of a field meets what is asked of it** just when it stands for something that the
field admits. -/
theorem Field.isMetBy_iff {field : Field} :
    field.IsMetBy d v ↔ ∃ x : Datum, x.IsGivenBy d v ∧ field.Admits x := by
  have hnone {field : Field} (hmember : field.memberSchema? = none) :
      field.IsMetBy d v ↔ field.schema.IsMetBy d v := by
    rw [Field.IsMetBy, hmember]
    exact and_iff_left fun _ => by rintro ⟨⟩
  have htexts {field : Field} {nonempty : Bool} (hschema : field.schema = listSchema nonempty)
      (hmember : field.memberSchema? = some textSchema)
      (hadmits : ∀ x, field.Admits x ↔
        ∃ ss, x = .texts ss ∧ (nonempty = true → ss ≠ []) ∧ "" ∉ ss) :
      field.IsMetBy d v ↔ ∃ x : Datum, x.IsGivenBy d v ∧ field.Admits x := by
    rw [isMetBy_texts_iff hschema hmember]
    constructor
    · rintro ⟨ss, hgiven, hss⟩
      exact ⟨.texts ss, hgiven, (hadmits _).mpr ⟨ss, rfl, hss⟩⟩
    · rintro ⟨x, hgiven, hx⟩
      obtain ⟨ss, rfl, hss⟩ := (hadmits x).mp hx
      exact ⟨ss, hgiven, hss⟩
  cases field with
  | extension =>
    rw [hnone rfl, Subschema.isMetBy_iff]
    constructor
    · rintro ⟨⟨s, rfl⟩, hmore⟩
      refine ⟨.text s, rfl, Option.ne_none_iff_exists'.mp fun hnone => ?_⟩
      exact hmore .pattern rfl ⟨s, rfl, hnone⟩
    · rintro ⟨s | b | ss, hgiven, hx⟩
      · obtain ⟨word, hword⟩ := hx
        refine ⟨⟨s, hgiven⟩, ?_⟩
        rintro _ ⟨⟩ ⟨s', hs', hnone⟩
        obtain rfl := Scalar.text.inj (Value.scalar.inj (hgiven.symm.trans hs'))
        rw [hword] at hnone
        cases hnone
      · cases hx
      · cases hx
  | skillsSegment =>
    rw [hnone rfl]
    refine textSchema_isMetBy_iff.trans ⟨?_, ?_⟩
    · rintro ⟨s, hs⟩
      exact ⟨.text s, hs⟩
    · rintro ⟨s | b | ss, hgiven, hx⟩
      · exact ⟨s, hgiven, hx⟩
      · cases hx
      · cases hx
  | strict =>
    rw [hnone rfl, Subschema.isMetBy_iff]
    constructor
    · rintro ⟨⟨b, hb⟩, -⟩
      exact ⟨.flag b, hb, trivial⟩
    · rintro ⟨s | b | ss, hgiven, hx⟩
      · cases hx
      · exact ⟨⟨b, hgiven⟩, by rintro _ ⟨⟩⟩
      · cases hx
  | sharedRulesArea => exact htexts rfl rfl fun x => by cases x <;> simp [Field.Admits]
  | exemptFilenames => exact htexts rfl rfl fun x => by cases x <;> simp [Field.Admits]
  | knownKeys => exact htexts rfl rfl fun x => by cases x <;> simp [Field.Admits]
  | catchAllPatterns => exact htexts rfl rfl fun x => by cases x <;> simp [Field.Admits]

end Value

/-! ### The documents that are accepted -/

section Document

variable {d : Document} {entries : List (Scalar × Value)}

/-- Entries **fit** the schema when each of them gives a field something that the field admits. -/
def Fits (d : Document) (entries : List (Scalar × Value)) : Prop :=
  ∀ key v, (key, v) ∈ entries →
    ∃ (field : Field) (x : Datum), key = .text field.name ∧ x.IsGivenBy d v ∧ field.Admits x

/-- A document **is accepted** when it is a mapping whose entries fit the schema. -/
def IsAccepted (d : Document) : Prop :=
  ∃ entries, d.collection? d.root = some (.mapping entries) ∧ Fits d entries

/-- **A document has no violation** just when it is accepted. -/
theorem forall_not_violates_iff : (∀ place k v, ¬ Violates d place k v) ↔ IsAccepted d := by
  constructor
  · intro h
    have hmet : rootSchema.IsMetBy d d.root := fun k hasks hbroken =>
      h [] k d.root ⟨rootSchema, .root, hasks, hbroken⟩
    -- so it is a mapping, and all its keys name fields
    obtain ⟨⟨entries, hroot⟩, hmore⟩ := Subschema.isMetBy_iff.mp hmet
    have hkeys : Schema.unknownKeys entries = [] :=
      Decidable.not_not.mp fun hne => hmore .noOtherKeys rfl ⟨entries, hroot, hne⟩
    refine ⟨entries, hroot, fun key v hv => ?_⟩
    obtain ⟨field, hfield⟩ := Schema.unknownKeys_eq_nil_iff.mp hkeys _ hv
    obtain rfl : key = .text field.name := Field.ofKey?_eq_some_iff.mp hfield
    -- what is asked of its value holds at the field and at the members
    have hmet : field.IsMetBy d v := by
      refine ⟨fun k hasks hbroken => h _ k v ⟨_, .field hroot hv, hasks, hbroken⟩, ?_⟩
      intro member hmember items hitems item hitem k hasks hbroken
      obtain ⟨i, hi⟩ := List.mem_iff_getElem?.mp hitem
      exact h _ k item ⟨member, .member hroot hv hitems hi hmember, hasks, hbroken⟩
    obtain ⟨x, hx⟩ := Field.isMetBy_iff.mp hmet
    exact ⟨field, x, rfl, hx⟩
  · rintro ⟨entries, hroot, hfits⟩ place k v ⟨schema, hsubject, hasks, hbroken⟩
    have hmapping {other : List (Scalar × Value)}
        (hother : d.collection? d.root = some (.mapping other)) : other = entries :=
      mapping_unique hother hroot
    have hmet {field : Field} {v : Value} (hv : (.text field.name, v) ∈ entries) :
        field.IsMetBy d v := by
      obtain ⟨other, x, hname, hx⟩ := hfits _ v hv
      obtain rfl := Field.name_injective (Scalar.text.inj hname)
      exact Field.isMetBy_iff.mpr ⟨x, hx⟩
    cases hsubject with
    | root =>
      rcases hasks with rfl | hk
      · exact hbroken ⟨entries, hroot⟩
      · obtain rfl := Option.some.inj hk
        obtain ⟨other, hother, hne⟩ := hbroken
        obtain rfl := hmapping hother
        refine hne (Schema.unknownKeys_eq_nil_iff.mpr fun entry hentry => ?_)
        obtain ⟨field, -, hkey, -⟩ := hfits entry.1 entry.2 hentry
        exact ⟨field, Field.ofKey?_eq_some_iff.mpr hkey⟩
    | field hother hv =>
      obtain rfl := hmapping hother
      exact (hmet hv).1 k hasks hbroken
    | member hother hv hitems hi hschema =>
      obtain rfl := hmapping hother
      exact (hmet hv).2 schema hschema _ hitems v (List.mem_of_getElem? hi) k hasks hbroken

/-- **Nothing is found** in a document just when it is accepted. -/
theorem violations_eq_nil_iff : Schema.violations d = [] ↔ IsAccepted d := by
  rw [← forall_not_violates_iff, List.eq_nil_iff_forall_not_mem]
  constructor
  · intro h place k v hviolates
    exact h ⟨place, k.cause d v⟩ (mem_violations_iff.mpr ⟨k, v, hviolates, rfl⟩)
  · intro h w hw
    obtain ⟨k, v, hviolates, -⟩ := mem_violations_iff.mp hw
    exact h w.place k v hviolates

end Document

/-! ### What is taken over -/

section Merge

variable {d : Document} {entries : List (Scalar × Value)} (s : Settings)

private theorem setField_get_of_ne {field other : Field} (h : other ≠ field) (v : Value) :
    (setField d s field v).get other = s.get other := by
  cases field <;> cases other <;> first | rfl | exact absurd rfl h

private theorem textsOf_map_text {v : Value} {ss : List String}
    (h : (Datum.texts ss).IsGivenBy d v) :
    textsOf d v = ss := by
  rw [textsOf, items?_eq_some_iff.mpr h, Option.getD_some, List.filterMap_map]
  exact List.filterMap_some

private theorem setField_get_self {field : Field} {v : Value} {x : Datum} (hgiven : x.IsGivenBy d v)
    (hadmits : field.Admits x) : (setField d s field v).get field = x := by
  cases x with
  | text text =>
    obtain rfl : v = .scalar (.text text) := hgiven
    cases field with
    | extension => rfl
    | skillsSegment => rfl
    | _ => cases hadmits
  | flag b =>
    obtain rfl : v = .scalar (.flag b) := hgiven
    cases field with
    | strict => rfl
    | _ => cases hadmits
  | texts ss =>
    have htexts := congrArg Datum.texts (textsOf_map_text hgiven)
    cases field with
    | sharedRulesArea => exact htexts
    | exemptFilenames => exact htexts
    | knownKeys => exact htexts
    | catchAllPatterns => exact htexts
    | _ => cases hadmits

private theorem setEntry_of_field {entry : Scalar × Value} {field : Field}
    (hkey : entry.1 = .text field.name) : setEntry d s entry = setField d s field entry.2 := by
  rw [setEntry, Field.ofKey?_eq_some_iff.mpr hkey]

/-- An entry changes no field but the one that it names. -/
private theorem setEntry_get_of_ne {entry : Scalar × Value} {field : Field}
    (hkey : entry.1 ≠ .text field.name) : (setEntry d s entry).get field = s.get field := by
  cases hfield : Field.ofKey? entry.1 with
  | none => rw [setEntry, hfield]
  | some other =>
    have hother := Field.ofKey?_eq_some_iff.mp hfield
    rw [setEntry_of_field s hother]
    refine setField_get_of_ne s (fun h => hkey ?_) entry.2
    rw [h]
    exact hother

/-- A field that no entry names keeps what it has. -/
private theorem foldl_setEntry_get_of_notMem {field : Field}
    (h : ∀ v, (.text field.name, v) ∉ entries) :
    (entries.foldl (setEntry d) s).get field = s.get field := by
  induction entries generalizing s with
  | nil => rfl
  | cons entry entries ih =>
    rw [List.foldl_cons, ih _ fun v hv => h v (List.mem_cons_of_mem _ hv)]
    refine setEntry_get_of_ne s fun hkey => h entry.2 ?_
    rw [← hkey]
    exact List.mem_cons_self

/-- A field that an entry names is given what the value of the entry stands for. -/
private theorem foldl_setEntry_get_of_mem (hkeys : DistinctKeys entries) {field : Field} {v : Value}
    (hv : (.text field.name, v) ∈ entries) {x : Datum} (hgiven : x.IsGivenBy d v)
    (hadmits : field.Admits x) : (entries.foldl (setEntry d) s).get field = x := by
  induction entries generalizing s with
  | nil => exact absurd hv List.not_mem_nil
  | cons entry entries ih =>
    rw [List.foldl_cons]
    rcases List.mem_cons.mp hv with rfl | hv
    · -- no later entry has the key again
      rw [foldl_setEntry_get_of_notMem _ (hkeys.notMem_of_cons rfl), setEntry_of_field s rfl]
      exact setField_get_self s hgiven hadmits
    · exact ih _ (List.pairwise_cons.mp hkeys).2 hv

/-- The entries of a mapping **are merged** when every field that they name is given what its value
stands for, and every other field keeps what it has. -/
structure AreMerged (d : Document) (entries : List (Scalar × Value)) (base s : Settings) :
    Prop where
  given : ∀ (field : Field) (v : Value) (x : Datum), (.text field.name, v) ∈ entries →
    x.IsGivenBy d v → s.get field = x
  kept : ∀ field : Field, (∀ v, (.text field.name, v) ∉ entries) → s.get field = base.get field

end Merge

/-! ### Documents -/

section Load

variable {d : Document} {base : Settings}

/-- A document that holds nothing changes nothing. -/
private theorem ofDocument_of_null (hroot : d.root = .scalar .null) :
    ofDocument base d = .ok base := by
  rw [ofDocument, if_pos hroot]

/-- A mapping does not hold nothing. -/
theorem root_ne_null {entries : List (Scalar × Value)}
    (hroot : d.collection? d.root = some (.mapping entries)) : d.root ≠ .scalar .null := by
  intro hnull
  rw [hnull] at hroot
  cases hroot

/-- **Entries that fit the schema** are merged. -/
theorem ofDocument_of_fits (base : Settings) (hd : d.HasDistinctKeys)
    {entries : List (Scalar × Value)} (hroot : d.collection? d.root = some (.mapping entries))
    (hfits : Fits d entries) :
    ∃ s, ofDocument base d = .ok s ∧ AreMerged d entries base s := by
  have haccepted : IsAccepted d := ⟨entries, hroot, hfits⟩
  refine ⟨entries.foldl (setEntry d) base, ?_, ?_, ?_⟩
  · rw [ofDocument, if_neg (root_ne_null hroot), violations_eq_nil_iff.mpr haccepted,
      entries?_eq_some_iff.mpr hroot]
    rfl
  · intro field v x hv hgiven
    obtain ⟨other, y, hname, hy, hadmits⟩ := hfits _ v hv
    obtain rfl := Field.name_injective (Scalar.text.inj hname)
    have hset := foldl_setEntry_get_of_mem base (hd.of_mapping hroot) hv hy hadmits
    rw [hset]
    exact hy.unique hgiven
  · exact fun field => foldl_setEntry_get_of_notMem base

/-- **Any other document** is refused for a violation. -/
theorem ofDocument_of_not_accepted (base : Settings) (hnull : d.root ≠ .scalar .null)
    (h : ¬ IsAccepted d) :
    ∃ v, ofDocument base d = .error v := by
  rw [ofDocument, if_neg hnull]
  cases hleast : Schema.least? (Schema.violations d) with
  | none => exact absurd (violations_eq_nil_iff.mp (Schema.least?_eq_none_iff.mp hleast)) h
  | some v => exact ⟨v, rfl⟩

end Load

/-! ### Files -/

section File

variable {t : FileTree} {source : Option Path} {base s : Settings}

/-- Every default is something that its field admits. -/
theorem admits_default (field : Field) : field.Admits (({} : Settings).get field) := by
  cases field with
  | extension => exact ⟨['m', 'd'], by rfl⟩
  | skillsSegment =>
    change "skills" ≠ ""
    decide
  | strict => trivial
  | sharedRulesArea => exact ⟨List.cons_ne_nil _ _, by decide⟩
  | exemptFilenames =>
    change "" ∉ ["CLAUDE.md"]
    decide
  | knownKeys =>
    change "" ∉ ["description", "paths", "alwaysApply", "name", "version", "argument-hint"]
    decide
  | catchAllPatterns =>
    change "" ∉ ["**/*", "**", "*"]
    decide

/-- What is merged into admitted settings is admitted. -/
private theorem AreMerged.admits {d : Document} {entries : List (Scalar × Value)}
    (hfits : Fits d entries)
    (h : AreMerged d entries base s) {field : Field} (hbase : field.Admits (base.get field)) :
    field.Admits (s.get field) := by
  by_cases hnamed : ∃ v, (.text field.name, v) ∈ entries
  · obtain ⟨v, hv⟩ := hnamed
    obtain ⟨other, x, hname, hgiven, hadmits⟩ := hfits _ v hv
    obtain rfl := Field.name_injective (Scalar.text.inj hname)
    rw [h.given field v x hv hgiven]
    exact hadmits
  · rw [h.kept field (not_exists.mp hnamed)]
    exact hbase

/-- Settings that are loaded from a file that is read as a document are the base, if the document
holds nothing, and else what its entries give is merged into them. -/
theorem IsReadAs.merged_of_load {path : Path} {d : Document} (hread : IsReadAs t path d)
    (h : load t (some path) base = .ok s) :
    d.root = .scalar .null ∧ s = base ∨
      ∃ entries, d.collection? d.root = some (.mapping entries) ∧ Fits d entries ∧
        AreMerged d entries base s := by
  by_cases hnull : d.root = .scalar .null
  · rw [hread.load_of_ok base (ofDocument_of_null hnull)] at h
    exact .inl ⟨hnull, (Except.ok.inj h).symm⟩
  · by_cases haccepted : IsAccepted d
    · obtain ⟨entries, hroot, hfits⟩ := haccepted
      obtain ⟨s', hs', hmerged⟩ := ofDocument_of_fits base hread.hasDistinctKeys hroot hfits
      rw [hread.load_of_ok base hs'] at h
      obtain rfl := Except.ok.inj h
      exact .inr ⟨entries, hroot, hfits, hmerged⟩
    · obtain ⟨v, hv⟩ := ofDocument_of_not_accepted base hnull haccepted
      rw [hread.load_of_error base hv] at h
      cases h

/-- **A field that has something admitted** keeps having something admitted. -/
theorem load_admits (h : load t source base = .ok s) {field : Field}
    (hbase : field.Admits (base.get field)) : field.Admits (s.get field) := by
  cases source with
  | none =>
    obtain rfl := Except.ok.inj h
    exact hbase
  | some path =>
    rcases load_ok base h with rfl | ⟨d, hread, -⟩
    · exact hbase
    · rcases hread.merged_of_load h with ⟨-, rfl⟩ | ⟨entries, -, hfits, hmerged⟩
      · exact hbase
      · exact hmerged.admits hfits hbase

/-- A tree with one settings file, in which these characters stand. -/
def settingsTree (text : List Char) : FileTree :=
  ({} : FileTree).putFile ⟨.current, ["lint.yaml"]⟩ (text.map fun c => UInt8.ofNat c.toNat)

theorem settingsTree_isReadAs {text : List Char} {d : Document}
    (hdecode : Text.Utf8.decode (text.map fun c => UInt8.ofNat c.toNat) = .ok text)
    (hparse : Document.parse (String.ofList (Text.unifyNewlines text)) = .ok d) :
    IsReadAs (settingsTree text) ⟨.current, ["lint.yaml"]⟩ d :=
  ⟨_, text, rfl, hdecode, hparse⟩

end File

end Rulebook.Settings
