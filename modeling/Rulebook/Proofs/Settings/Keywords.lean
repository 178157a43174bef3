import Rulebook.Proofs.Settings.Extension
import Rulebook.Proofs.Yaml.DistinctKeys

/-!
# The keywords of the schema

The schema says of the document, of the value of each field and of each member of a list what it
has to be. It does so with keywords, and a keyword that a value breaks is a violation. A `Subschema`
asks for a kind of value and may ask for one thing more, which is a thing about values of that kind.

**Main facts.** `mem_violations_iff`: the violations of a document are the keywords that its values
break. `Violates.unique`: at one place there is at most one, because a value that is not of the kind
breaks no other keyword.
-/

namespace Rulebook.Settings

open Yaml Document

/-! ### Keywords -/

/-- What the schema may ask of a value. -/
inductive Keyword where
  /-- To be of a kind. -/
  | ofKind (kind : Kind)
  /-- As a mapping, to have no keys but the names of fields. -/
  | noOtherKeys
  /-- As a text, to match the pattern of extensions. -/
  | pattern
  /-- As a text, not to be empty. -/
  | nonemptyText
  /-- As a list, not to be empty. -/
  | nonemptyList
  deriving DecidableEq, Repr

/-- Whether a value is of a kind. -/
def IsOfKind (d : Document) (v : Value) : Kind → Prop
  | .object => ∃ entries, d.collection? v = some (.mapping entries)
  | .array => ∃ items, d.collection? v = some (.list items)
  | .string => ∃ s, v = .scalar (.text s)
  | .boolean => ∃ b, v = .scalar (.flag b)

namespace Keyword

/-- What it means that a value breaks a keyword. Apart from the kind, a keyword says something about
values of one kind only. -/
def IsBrokenBy (d : Document) (v : Value) : Keyword → Prop
  | ofKind kind => ¬ IsOfKind d v kind
  | noOtherKeys =>
    ∃ entries, d.collection? v = some (.mapping entries) ∧ Schema.unknownKeys entries ≠ []
  | pattern => ∃ s, v = .scalar (.text s) ∧ extensionPattern.first? s.toList = none
  | nonemptyText => v = .scalar (.text "")
  | nonemptyList => d.collection? v = some (.list [])

/-- What is told about a value that breaks a keyword. -/
def cause (d : Document) (v : Value) : Keyword → Cause
  | ofKind kind => .notOfKind (d.render v) kind
  | noOtherKeys =>
    .unknownKeys ((Schema.unknownKeys ((Schema.entries? d v).getD [])).map Scalar.render)
  | pattern => .badExtension (d.render v)
  | nonemptyText => .empty (d.render v)
  | nonemptyList => .empty (d.render v)

/-- The kind of value that a keyword says something about, if it is one kind only. -/
def about? : Keyword → Option Kind
  | ofKind _ => none
  | noOtherKeys => some .object
  | pattern => some .string
  | nonemptyText => some .string
  | nonemptyList => some .array

/-- A keyword about values of one kind is broken by values of that kind only. -/
private theorem IsBrokenBy.isOfKind {d : Document} {v : Value} {k : Keyword} (h : k.IsBrokenBy d v)
    {kind : Kind} (hkind : k.about? = some kind) : IsOfKind d v kind := by
  cases k with
  | ofKind => cases hkind
  | noOtherKeys =>
    obtain rfl := Option.some.inj hkind
    obtain ⟨entries, hentries, -⟩ := h
    exact ⟨entries, hentries⟩
  | pattern =>
    obtain rfl := Option.some.inj hkind
    obtain ⟨s, hs, -⟩ := h
    exact ⟨s, hs⟩
  | nonemptyText =>
    obtain rfl := Option.some.inj hkind
    exact ⟨"", h⟩
  | nonemptyList =>
    obtain rfl := Option.some.inj hkind
    exact ⟨[], h⟩

end Keyword

/-- What the schema asks of a value: to be of a kind, and perhaps one thing more about values of
that kind. -/
structure Subschema where
  kind : Kind
  more? : Option Keyword := none
  about_more : ∀ k ∈ more?, k.about? = some kind := by decide

namespace Subschema

/-- Whether a keyword is one of those that are asked. -/
def Asks (schema : Subschema) (k : Keyword) : Prop :=
  k = .ofKind schema.kind ∨ schema.more? = some k

/-- A value breaks at most one of the keywords that are asked of it. -/
private theorem broken_unique {schema : Subschema} {d : Document} {v : Value} {j k : Keyword}
    (hj : schema.Asks j) (hk : schema.Asks k) (hjv : j.IsBrokenBy d v) (hkv : k.IsBrokenBy d v) :
    j = k := by
  have hkind {l : Keyword} (hl : schema.more? = some l) (hlv : l.IsBrokenBy d v) :
      ¬ (Keyword.ofKind schema.kind).IsBrokenBy d v :=
    not_not.mpr (hlv.isOfKind (schema.about_more l hl))
  rcases hj with rfl | hj <;> rcases hk with rfl | hk
  · rfl
  · exact absurd hjv (hkind hk hkv)
  · exact absurd hkv (hkind hj hjv)
  · exact Option.some.inj (hj.symm.trans hk)

/-- `schema.Finds d v c` means that the cause `c` is told about a keyword that the value breaks. -/
def Finds (schema : Subschema) (d : Document) (v : Value) (c : Cause) : Prop :=
  ∃ k, schema.Asks k ∧ k.IsBrokenBy d v ∧ c = k.cause d v

/-- About a value that is not of the kind, nothing else is told. -/
private theorem finds_iff_of_not_isOfKind (schema : Subschema) {d : Document} {v : Value}
    {c : Cause} (h : ¬ IsOfKind d v schema.kind) :
    some (.notOfKind (d.render v) schema.kind) = some c ↔ schema.Finds d v c := by
  constructor
  · rintro ⟨⟩
    exact ⟨_, .inl rfl, h, rfl⟩
  · rintro ⟨k, rfl | hk, hbroken, rfl⟩
    · rfl
    · exact absurd (hbroken.isOfKind (schema.about_more k hk)) h

/-- About a value that is of the kind, only the other keyword can tell something. -/
private theorem finds_iff_of_isOfKind {schema : Subschema} {d : Document} {v : Value} {c : Cause}
    (h : IsOfKind d v schema.kind) :
    schema.Finds d v c ↔ ∃ k ∈ schema.more?, k.IsBrokenBy d v ∧ c = k.cause d v := by
  constructor
  · rintro ⟨k, rfl | hk, hbroken, rfl⟩
    · exact absurd h hbroken
    · exact ⟨k, hk, hbroken, rfl⟩
  · rintro ⟨k, hk, hbroken, rfl⟩
    exact ⟨k, .inr hk, hbroken, rfl⟩

end Subschema

/-! ### The schema -/

/-- What is asked of the document: it is a mapping whose keys name fields. -/
def rootSchema : Subschema where
  kind := .object
  more? := some .noOtherKeys

/-- What is asked of a text that must not be empty. -/
def textSchema : Subschema where
  kind := .string
  more? := some .nonemptyText

/-- What is asked of a list, which may have to hold something. -/
def listSchema (nonempty : Bool) : Subschema where
  kind := .array
  more? := if nonempty then some .nonemptyList else none
  about_more := by cases nonempty <;> decide

/-- What is asked of the value of a field. -/
def Field.schema : Field → Subschema
  | extension => { kind := .string, more? := some .pattern }
  | skillsSegment => textSchema
  | strict => { kind := .boolean }
  | sharedRulesArea => listSchema true
  | exemptFilenames => listSchema false
  | knownKeys => listSchema false
  | catchAllPatterns => listSchema false

/-- What is asked of the members of the value of a field, if it has any. -/
def Field.memberSchema? : Field → Option Subschema
  | extension => none
  | skillsSegment => none
  | strict => none
  | sharedRulesArea => some textSchema
  | exemptFilenames => some textSchema
  | knownKeys => some textSchema
  | catchAllPatterns => some textSchema

/-- `Subject d place v schema` means that the document has the value `v` at a place, of which this
is asked. -/
inductive Subject (d : Document) : Place → Value → Subschema → Prop
  | root : Subject d [] d.root rootSchema
  | field {entries : List (Scalar × Value)} (hroot : d.collection? d.root = some (.mapping entries))
    {field : Field} {v : Value} (hv : (.text field.name, v) ∈ entries) :
    Subject d [.field field.name] v field.schema
  | member {entries : List (Scalar × Value)}
    (hroot : d.collection? d.root = some (.mapping entries))
    {field : Field} {v : Value} (hv : (.text field.name, v) ∈ entries) {items : List Value}
    (hitems : d.collection? v = some (.list items)) {i : Nat} {item : Value}
    (hi : items[i]? = some item) {schema : Subschema}
    (hschema : field.memberSchema? = some schema) :
    Subject d [.field field.name, .member i] item schema

/-- `Violates d place k v` means that the value `v` at a place breaks the keyword `k`. -/
def Violates (d : Document) (place : Place) (k : Keyword) (v : Value) : Prop :=
  ∃ schema, Subject d place v schema ∧ schema.Asks k ∧ k.IsBrokenBy d v

/-! ### One value -/

section Value

variable {d : Document} {v : Value} {c : Cause}

private theorem text?_eq_some_iff {s : String} :
    Schema.text? v = some s ↔ v = .scalar (.text s) := by
  constructor
  · intro h
    unfold Schema.text? at h
    split at h
    · rw [Option.some.inj h]
    · cases h
  · rintro rfl
    rfl

private theorem flag?_eq_some_iff {b : Bool} : Schema.flag? v = some b ↔ v = .scalar (.flag b) := by
  constructor
  · intro h
    unfold Schema.flag? at h
    split at h
    · rw [Option.some.inj h]
    · cases h
  · rintro rfl
    rfl

theorem items?_eq_some_iff {items : List Value} :
    Schema.items? d v = some items ↔ d.collection? v = some (.list items) := by
  constructor
  · intro h
    rw [Schema.items?] at h
    split at h
    · next hc => rw [hc, Option.some.inj h]
    · cases h
  · intro h
    rw [Schema.items?, h]

theorem entries?_eq_some_iff {entries : List (Scalar × Value)} :
    Schema.entries? d v = some entries ↔ d.collection? v = some (.mapping entries) := by
  constructor
  · intro h
    rw [Schema.entries?] at h
    split at h
    · next hc => rw [hc, Option.some.inj h]
    · cases h
  · intro h
    rw [Schema.entries?, h]

private theorem not_isOfKind_string (h : Schema.text? v = none) : ¬ IsOfKind d v .string := by
  rintro ⟨s, hs⟩
  rw [text?_eq_some_iff.mpr hs] at h
  cases h

private theorem checkText_eq_some_iff : Schema.checkText d v = some c ↔ textSchema.Finds d v c := by
  rw [Schema.checkText]
  cases htext : Schema.text? v with
  | none => exact textSchema.finds_iff_of_not_isOfKind (not_isOfKind_string htext)
  | some s =>
    obtain rfl := text?_eq_some_iff.mp htext
    have hkind : IsOfKind d (.scalar (.text s)) textSchema.kind := ⟨s, rfl⟩
    rw [Subschema.finds_iff_of_isOfKind hkind]
    dsimp only
    split
    · next hempty =>
      subst hempty
      constructor
      · intro h
        exact ⟨.nonemptyText, rfl, rfl, (Option.some.inj h).symm⟩
      · rintro ⟨_, ⟨⟩, -, rfl⟩
        rfl
    · next hne =>
      refine iff_of_false (Option.some_ne_none c).symm ?_
      rintro ⟨_, ⟨⟩, hbroken, -⟩
      exact hne (Scalar.text.inj (Value.scalar.inj hbroken))

private theorem checkExtension_eq_some_iff :
    Schema.checkExtension d v = some c ↔ Field.extension.schema.Finds d v c := by
  rw [Schema.checkExtension]
  cases htext : Schema.text? v with
  | none =>
    exact Field.extension.schema.finds_iff_of_not_isOfKind (not_isOfKind_string htext)
  | some s =>
    obtain rfl := text?_eq_some_iff.mp htext
    have hkind : IsOfKind d (.scalar (.text s)) Field.extension.schema.kind := ⟨s, rfl⟩
    rw [Subschema.finds_iff_of_isOfKind hkind]
    dsimp only
    rw [isExtension_eq_matches]
    cases hmatch : extensionPattern.first? s.toList with
    | some word =>
      refine iff_of_false (Option.some_ne_none c).symm ?_
      rintro ⟨_, ⟨⟩, ⟨_, ⟨⟩, hnone⟩, -⟩
      rw [hmatch] at hnone
      cases hnone
    | none =>
      constructor
      · intro h
        exact ⟨.pattern, rfl, ⟨s, rfl, hmatch⟩, (Option.some.inj h).symm⟩
      · rintro ⟨_, ⟨⟩, -, rfl⟩
        rfl

private theorem checkFlag_eq_some_iff :
    Schema.checkFlag d v = some c ↔ Field.strict.schema.Finds d v c := by
  rw [Schema.checkFlag]
  cases hflag : Schema.flag? v with
  | none =>
    refine Field.strict.schema.finds_iff_of_not_isOfKind ?_
    rintro ⟨b, hb⟩
    rw [flag?_eq_some_iff.mpr hb] at hflag
    cases hflag
  | some b =>
    obtain rfl := flag?_eq_some_iff.mp hflag
    have hkind : IsOfKind d (.scalar (.flag b)) Field.strict.schema.kind := ⟨b, rfl⟩
    rw [Subschema.finds_iff_of_isOfKind hkind]
    refine iff_of_false (Option.some_ne_none c).symm ?_
    rintro ⟨_, ⟨⟩, -⟩

end Value

/-! ### Lists and fields -/

section Field

variable {d : Document} {v : Value} {w : Violation}

private theorem mem_here_iff {cause : Option Cause} :
    w ∈ Schema.here cause ↔ w.place = [] ∧ cause = some w.cause := by
  cases cause with
  | none => simp [Schema.here]
  | some c =>
    rw [Schema.here, Option.toList_some, List.map_singleton, List.mem_singleton]
    constructor
    · rintro rfl
      exact ⟨rfl, rfl⟩
    · rintro ⟨hplace, hcause⟩
      cases w
      exact congrArg₂ Violation.mk hplace (Option.some.inj hcause).symm

/-- What is found at a place in a value: at the value itself, or at a member of it. -/
def FindsIn (d : Document) (v : Value) (schema : Subschema) (members? : Option Subschema)
    (w : Violation) : Prop :=
  (w.place = [] ∧ schema.Finds d v w.cause) ∨
    ∃ items i item member, d.collection? v = some (.list items) ∧ items[i]? = some item ∧
      members? = some member ∧ w.place = [.member i] ∧ member.Finds d item w.cause

private theorem findsIn_none_iff {schema : Subschema} :
    FindsIn d v schema none w ↔ w.place = [] ∧ schema.Finds d v w.cause := by
  refine or_iff_left ?_
  rintro ⟨_, _, _, _, -, -, hnone, -⟩
  cases hnone

/-- What is found among the members of a list. -/
private theorem mem_checkMembers_iff {items : List Value} :
    (w ∈ items.zipIdx.filterMap fun (item, i) =>
        (Schema.checkText d item).map fun cause => ⟨[.member i], cause⟩) ↔
      ∃ i item, items[i]? = some item ∧ w.place = [.member i] ∧
        textSchema.Finds d item w.cause := by
  simp only [List.mem_filterMap, Prod.exists, List.mem_zipIdx_iff_getElem?, Option.map_eq_some_iff,
    checkText_eq_some_iff]
  constructor
  · rintro ⟨item, i, hi, cause, hfinds, rfl⟩
    exact ⟨i, item, hi, rfl, hfinds⟩
  · rintro ⟨i, item, hi, hplace, hfinds⟩
    exact ⟨item, i, hi, w.cause, hfinds, congrArg (Violation.mk · w.cause) hplace.symm⟩

/-- What is found about a list itself: that it is empty, where it must not be. -/
private theorem mem_checkEmpty_iff {nonempty : Bool} {items : List Value}
    (hitems : d.collection? v = some (.list items)) :
    (w ∈ if nonempty && items.isEmpty then [⟨[], .empty (d.render v)⟩] else []) ↔
      w.place = [] ∧ (listSchema nonempty).Finds d v w.cause := by
  have hkind : IsOfKind d v (listSchema nonempty).kind := ⟨items, hitems⟩
  rw [Subschema.finds_iff_of_isOfKind hkind]
  cases nonempty with
  | false =>
    refine iff_of_false List.not_mem_nil ?_
    rintro ⟨-, _, ⟨⟩, -⟩
  | true =>
    rw [Bool.true_and]
    split
    · next hempty =>
      obtain rfl := List.isEmpty_iff.mp hempty
      rw [List.mem_singleton]
      constructor
      · rintro rfl
        exact ⟨rfl, .nonemptyList, rfl, hitems, rfl⟩
      · rintro ⟨hplace, _, ⟨⟩, -, hcause⟩
        cases w
        exact congrArg₂ Violation.mk hplace hcause
    · next hne =>
      refine iff_of_false List.not_mem_nil ?_
      rintro ⟨-, _, ⟨⟩, hbroken, -⟩
      obtain rfl := list_unique hitems hbroken
      exact hne rfl

private theorem mem_checkTexts_iff {nonempty : Bool} :
    w ∈ Schema.checkTexts d nonempty v ↔
      FindsIn d v (listSchema nonempty) (some textSchema) w := by
  rw [Schema.checkTexts]
  cases hitems : Schema.items? d v with
  | none =>
    have hkind : ¬ IsOfKind d v (listSchema nonempty).kind := by
      rintro ⟨items, hlist⟩
      rw [items?_eq_some_iff.mpr hlist] at hitems
      cases hitems
    rw [FindsIn, or_iff_left, ← Subschema.finds_iff_of_not_isOfKind _ hkind, ← mem_here_iff]
    · rfl
    · rintro ⟨items, -, -, -, hlist, -⟩
      exact hkind ⟨items, hlist⟩
  | some items =>
    have hlist := items?_eq_some_iff.mp hitems
    dsimp only
    rw [List.mem_append, mem_checkEmpty_iff hlist, mem_checkMembers_iff, FindsIn]
    refine or_congr_right ⟨?_, ?_⟩
    · rintro ⟨i, item, hi, hplace, hfinds⟩
      exact ⟨items, i, item, textSchema, hlist, hi, rfl, hplace, hfinds⟩
    · rintro ⟨_, i, item, _, hlist', hi, ⟨⟩, hplace, hfinds⟩
      obtain rfl := list_unique hlist hlist'
      exact ⟨i, item, hi, hplace, hfinds⟩

/-- What is found about the value of a field. -/
private theorem mem_checkField_iff {field : Field} :
    w ∈ Schema.checkField d field v ↔ FindsIn d v field.schema field.memberSchema? w := by
  have hhere {cause : Option Cause} {schema : Subschema}
      (h : cause = some w.cause ↔ schema.Finds d v w.cause) :
      w ∈ Schema.here cause ↔ FindsIn d v schema none w := by
    rw [mem_here_iff, findsIn_none_iff, h]
  cases field with
  | extension => exact hhere checkExtension_eq_some_iff
  | skillsSegment => exact hhere checkText_eq_some_iff
  | strict => exact hhere checkFlag_eq_some_iff
  | sharedRulesArea => exact mem_checkTexts_iff
  | exemptFilenames => exact mem_checkTexts_iff
  | knownKeys => exact mem_checkTexts_iff
  | catchAllPatterns => exact mem_checkTexts_iff

end Field

/-! ### The whole document -/

theorem Field.name_injective : Function.Injective Field.name := by
  intro a b
  cases a <;> cases b <;> decide

theorem Field.ofKey?_eq_some_iff {key : Scalar} {field : Field} :
    Field.ofKey? key = some field ↔ key = .text field.name := by
  constructor
  · intro h
    cases key with
    | text key =>
      have hname := List.find?_some h
      exact congrArg _ (of_decide_eq_true hname).symm
    | _ => cases h
  · rintro rfl
    cases field <;> rfl

section Document

variable {d : Document} {entries : List (Scalar × Value)}

/-- What is found about an entry is found about the value of a field. -/
private theorem mem_checkEntry_iff {entry : Scalar × Value} {w : Violation} :
    w ∈ Schema.checkEntry d entry ↔
      ∃ (field : Field) (place : Place), entry.1 = .text field.name ∧
        w.place = .field field.name :: place ∧
        FindsIn d entry.2 field.schema field.memberSchema? ⟨place, w.cause⟩ := by
  rw [Schema.checkEntry]
  cases hkey : Field.ofKey? entry.1 with
  | none =>
    refine iff_of_false List.not_mem_nil ?_
    rintro ⟨field, -, hname, -⟩
    rw [Field.ofKey?_eq_some_iff.mpr hname] at hkey
    cases hkey
  | some field =>
    have hname := Field.ofKey?_eq_some_iff.mp hkey
    simp only [List.mem_map, mem_checkField_iff]
    constructor
    · rintro ⟨inner, hinner, rfl⟩
      exact ⟨field, inner.place, hname, rfl, hinner⟩
    · rintro ⟨other, place, hother, hplace, hfinds⟩
      obtain rfl := Field.name_injective (Scalar.text.inj (hname.symm.trans hother))
      exact ⟨_, hfinds, congrArg (Violation.mk · w.cause) hplace.symm⟩

/-- What is found about the keys is found about the document. -/
private theorem mem_checkKeys_iff (hroot : d.collection? d.root = some (.mapping entries))
    {w : Violation} :
    w ∈ Schema.checkKeys entries ↔ w.place = [] ∧ rootSchema.Finds d d.root w.cause := by
  have hkind : IsOfKind d d.root rootSchema.kind := ⟨entries, hroot⟩
  have hcause : Keyword.noOtherKeys.cause d d.root =
      .unknownKeys ((Schema.unknownKeys entries).map Scalar.render) := by
    rw [Keyword.cause, entries?_eq_some_iff.mpr hroot, Option.getD_some]
  rw [Subschema.finds_iff_of_isOfKind hkind, Schema.checkKeys]
  split
  · next hnone =>
    refine iff_of_false List.not_mem_nil ?_
    rintro ⟨-, _, ⟨⟩, ⟨other, hother, hne⟩, -⟩
    obtain rfl := mapping_unique hroot hother
    exact hne hnone
  · next hne =>
    rw [List.mem_singleton]
    constructor
    · rintro rfl
      exact ⟨rfl, .noOtherKeys, rfl, ⟨entries, hroot, hne⟩, hcause.symm⟩
    · rintro ⟨hplace, _, ⟨⟩, -, hw⟩
      cases w
      exact congrArg₂ Violation.mk hplace (hw.trans hcause)

private theorem exists_violates_iff {place : Place} {c : Cause} :
    (∃ k v, Violates d place k v ∧ c = k.cause d v) ↔
      ∃ v schema, Subject d place v schema ∧ schema.Finds d v c := by
  constructor
  · rintro ⟨k, v, ⟨schema, hsubject, hasks, hbroken⟩, hc⟩
    exact ⟨v, schema, hsubject, k, hasks, hbroken, hc⟩
  · rintro ⟨v, schema, hsubject, k, hasks, hbroken, hc⟩
    exact ⟨k, v, ⟨schema, hsubject, hasks, hbroken⟩, hc⟩

/-- **The violations of a document** are the keywords that its values break. -/
theorem mem_violations_iff {w : Violation} :
    w ∈ Schema.violations d ↔ ∃ k v, Violates d w.place k v ∧ w.cause = k.cause d v := by
  rw [exists_violates_iff]
  obtain ⟨place, c⟩ := w
  rw [Schema.violations]
  cases hentries : Schema.entries? d d.root with
  | none =>
    have hkind : ¬ IsOfKind d d.root rootSchema.kind := by
      rintro ⟨entries, hroot⟩
      rw [entries?_eq_some_iff.mpr hroot] at hentries
      cases hentries
    have hhere : Violation.mk place c ∈ Schema.here (some (.notOfKind (d.render d.root) .object)) ↔
        place = [] ∧ rootSchema.Finds d d.root c := by
      rw [mem_here_iff, ← Subschema.finds_iff_of_not_isOfKind _ hkind]
      rfl
    refine hhere.trans ⟨?_, ?_⟩
    · rintro ⟨rfl, hfinds⟩
      exact ⟨_, _, .root, hfinds⟩
    · rintro ⟨v, schema, hsubject, hfinds⟩
      cases hsubject with
      | root => exact ⟨rfl, hfinds⟩
      | field hroot => exact absurd ⟨_, hroot⟩ hkind
      | member hroot => exact absurd ⟨_, hroot⟩ hkind
  | some entries =>
    have hroot := entries?_eq_some_iff.mp hentries
    dsimp only
    rw [List.mem_append, mem_checkKeys_iff hroot, List.mem_flatMap]
    simp only [mem_checkEntry_iff]
    constructor
    · rintro (⟨rfl, hfinds⟩ | ⟨⟨_, v⟩, hv, field, inner, ⟨⟩, rfl, hfinds⟩)
      · exact ⟨_, _, .root, hfinds⟩
      · rcases hfinds with
          ⟨hnil, hfinds⟩ | ⟨items, i, item, member, hitems, hi, hmember, hone, hfinds⟩
        · obtain rfl : inner = [] := hnil
          exact ⟨v, field.schema, .field hroot hv, hfinds⟩
        · obtain rfl : inner = [.member i] := hone
          exact ⟨item, member, .member hroot hv hitems hi hmember, hfinds⟩
    · rintro ⟨v, schema, hsubject, hfinds⟩
      cases hsubject with
      | root => exact .inl ⟨rfl, hfinds⟩
      | @field other hother field _ hv =>
        obtain rfl := mapping_unique hroot hother
        exact .inr ⟨_, hv, field, [], rfl, rfl, .inl ⟨rfl, hfinds⟩⟩
      | @member other hother field value hv items hitems i _ hi _ hmember =>
        obtain rfl := mapping_unique hroot hother
        exact .inr ⟨_, hv, field, [.member i], rfl, rfl,
          .inr ⟨items, i, v, schema, hitems, hi, hmember, rfl, hfinds⟩⟩

end Document

/-! ### One violation at a place -/

section Unique

variable {d : Document} {place : Place}

/-- At a place there is one value, of which one thing is asked. -/
theorem Subject.unique (hd : d.HasDistinctKeys) {v w : Value} {schema other : Subschema}
    (hv : Subject d place v schema) (hw : Subject d place w other) : v = w ∧ schema = other := by
  -- in one mapping, the name of a field has one value
  have hfield {entries entries' : List (Scalar × Value)} {field field' : Field} {v v' : Value}
      (hroot : d.collection? d.root = some (.mapping entries))
      (hv : (.text field.name, v) ∈ entries)
      (hroot' : d.collection? d.root = some (.mapping entries'))
      (hv' : (.text field'.name, v') ∈ entries') (hname : field.name = field'.name) :
      field = field' ∧ v = v' := by
    obtain rfl := Field.name_injective hname
    obtain rfl := mapping_unique hroot hroot'
    exact ⟨rfl, (hd.of_mapping hroot).value_unique hv hv'⟩
  generalize hplace : place = place' at hw
  cases hv with
  | root =>
    cases hw with
    | root => exact ⟨rfl, rfl⟩
    | field => cases hplace
    | member => cases hplace
  | field hroot hv =>
    cases hw with
    | root => cases hplace
    | field hroot' hv' =>
      have hname := Step.field.inj (List.cons_eq_cons.mp hplace).1
      obtain ⟨rfl, rfl⟩ := hfield hroot hv hroot' hv' hname
      exact ⟨rfl, rfl⟩
    | member => simp at hplace
  | member hroot hv hitems hi hschema =>
    cases hw with
    | root => cases hplace
    | field => simp at hplace
    | member hroot' hv' hitems' hi' hschema' =>
      obtain ⟨hname, hmember⟩ := List.cons_eq_cons.mp hplace
      obtain rfl := Step.member.inj (List.cons_eq_cons.mp hmember).1
      obtain ⟨rfl, rfl⟩ := hfield hroot hv hroot' hv' (Step.field.inj hname)
      obtain rfl := list_unique hitems hitems'
      exact ⟨Option.some.inj (hi.symm.trans hi'), Option.some.inj (hschema.symm.trans hschema')⟩

/-- **At one place there is at most one violation.** -/
theorem Violates.unique (hd : d.HasDistinctKeys) {j k : Keyword} {v w : Value}
    (hj : Violates d place j v) (hk : Violates d place k w) : j = k ∧ v = w := by
  obtain ⟨schema, hv, hasked, hbroken⟩ := hj
  obtain ⟨other, hw, hasked', hbroken'⟩ := hk
  obtain ⟨rfl, rfl⟩ := hv.unique hd hw
  exact ⟨Subschema.broken_unique hasked hasked' hbroken hbroken', rfl⟩

end Unique

end Rulebook.Settings
