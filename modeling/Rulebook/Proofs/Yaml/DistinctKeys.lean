import Rulebook.Proofs.Yaml.Failures

/-!
# The keys of a mapping

A mapping in a document has no key twice: a key that comes again only gives a new value to the entry
that is there. Two keys that are texts differ as texts then.

**Main fact.** `parse_hasDistinctKeys`: so it is with every mapping of every document that is read.

The proof goes through the functions that build a document. `YieldsOnly` says of each what it
yields, and is kept by every way in which they are put together.
-/

namespace Rulebook.Yaml

/-! ### What a computation yields -/

section YieldsOnly

variable {α β : Type} {P : α → Prop} {Q : β → Prop}

/-- A computation **yields only** values that satisfy `P`. -/
def YieldsOnly (P : α → Prop) (x : Except Failure α) : Prop :=
  ∀ a, x = .ok a → P a

private theorem yieldsOnly_ok {a : α} (h : P a) : YieldsOnly P (.ok a) := by
  intro b hb
  exact Except.ok.inj hb ▸ h

private theorem yieldsOnly_error (failure : Failure) : YieldsOnly P (.error failure) := by
  intro a h
  cases h

private theorem YieldsOnly.bind {x : Except Failure α} (hx : YieldsOnly P x)
    {next : α → Except Failure β}
    (hnext : ∀ a, P a → YieldsOnly Q (next a)) : YieldsOnly Q (x >>= next) := by
  cases x with
  | error failure => exact yieldsOnly_error failure
  | ok a => exact hnext a (hx a rfl)

private theorem yieldsOnly_any (x : Except Failure α) : YieldsOnly (fun _ => True) x :=
  fun _ _ => trivial

end YieldsOnly

/-! ### Entries -/

/-- Entries have **distinct keys** when no later key is the same as an earlier one. -/
def DistinctKeys (entries : List (Scalar × Value)) : Prop :=
  entries.Pairwise fun a b => a.1.same b.1 = false

/-- A text is another key than a different text. -/
private theorem Scalar.same_text_self (key : String) : (text key).same (text key) = true :=
  decide_eq_true rfl

/-- A key that is a text does not come again. -/
theorem DistinctKeys.notMem_of_cons {entry : Scalar × Value} {entries : List (Scalar × Value)}
    (h : DistinctKeys (entry :: entries)) {key : String} (hkey : entry.1 = .text key) (v : Value) :
    (.text key, v) ∉ entries := by
  intro hv
  have hsame := (List.pairwise_cons.mp h).1 _ hv
  rw [hkey, Scalar.same_text_self] at hsame
  exact Bool.false_ne_true hsame.symm

/-- A key that is a text has one value. -/
theorem DistinctKeys.value_unique {entries : List (Scalar × Value)} (h : DistinctKeys entries)
    {key : String} {v w : Value} (hv : (.text key, v) ∈ entries) (hw : (.text key, w) ∈ entries) :
    v = w := by
  induction entries with
  | nil => exact absurd hv List.not_mem_nil
  | cons entry entries ih =>
    rcases List.mem_cons.mp hv with hv | hv <;> rcases List.mem_cons.mp hw with hw | hw
    · exact (Prod.mk.inj (hv.trans hw.symm)).2
    · exact absurd hw (h.notMem_of_cons (congrArg Prod.fst hv).symm w)
    · exact absurd hv (h.notMem_of_cons (congrArg Prod.fst hw).symm v)
    · exact ih (List.pairwise_cons.mp h).2 hv hw

namespace Document

section Collection

variable {d : Document} {v : Value}

/-- A value that is a mapping has one list of entries. -/
theorem mapping_unique {entries entries' : List (Scalar × Value)}
    (h : d.collection? v = some (.mapping entries))
    (h' : d.collection? v = some (.mapping entries')) : entries = entries' :=
  Collection.mapping.inj (Option.some.inj (h.symm.trans h'))

/-- A value that is a list has one list of members. -/
theorem list_unique {items items' : List Value} (h : d.collection? v = some (.list items))
    (h' : d.collection? v = some (.list items')) : items = items' :=
  Collection.list.inj (Option.some.inj (h.symm.trans h'))

end Collection

/-- A document **has distinct keys** when each of its mappings does. -/
def HasDistinctKeys (d : Document) : Prop :=
  ∀ id entries, d.collections.lookup id = some (.mapping entries) → DistinctKeys entries

/-- So does every value of it that is a mapping. -/
theorem HasDistinctKeys.of_mapping {d : Document} (hd : d.HasDistinctKeys) {v : Value}
    {entries : List (Scalar × Value)} (hv : d.collection? v = some (.mapping entries)) :
    DistinctKeys entries := by
  cases v with
  | collection id => exact hd id entries hv
  | scalar => cases hv
  | pair => cases hv

private theorem mem_insert {key : Scalar} {value : Value} {entries : List (Scalar × Value)}
    {entry : Scalar × Value} (h : entry ∈ insert key value entries) :
    entry.1 = key ∨ ∃ old ∈ entries, entry.1 = old.1 := by
  induction entries with
  | nil =>
    rw [insert, List.mem_singleton] at h
    exact .inl (congrArg Prod.fst h)
  | cons first rest ih =>
    rw [insert] at h
    split at h
    · rcases List.mem_cons.mp h with rfl | h
      · exact .inr ⟨first, List.mem_cons_self, rfl⟩
      · exact .inr ⟨entry, List.mem_cons_of_mem _ h, rfl⟩
    · rcases List.mem_cons.mp h with rfl | h
      · exact .inr ⟨_, List.mem_cons_self, rfl⟩
      · refine (ih h).imp_right ?_
        rintro ⟨old, hold, heq⟩
        exact ⟨old, List.mem_cons_of_mem _ hold, heq⟩

/-- A key that is there keeps its place, and a new one goes to the end. -/
private theorem DistinctKeys.insert (key : Scalar) (value : Value) {entries : List (Scalar × Value)}
    (h : DistinctKeys entries) : DistinctKeys (Document.insert key value entries) := by
  induction entries with
  | nil => exact List.pairwise_singleton _ _
  | cons first rest ih =>
    obtain ⟨hfirst, hrest⟩ := List.pairwise_cons.mp h
    rw [Document.insert]
    split
    · exact List.pairwise_cons.mpr ⟨hfirst, hrest⟩
    · next hkey =>
      refine List.pairwise_cons.mpr ⟨fun entry hentry => ?_, ih hrest⟩
      rcases mem_insert hentry with heq | ⟨old, hold, heq⟩
      · rw [heq]
        exact Bool.eq_false_iff.mpr hkey
      · rw [heq]
        exact hfirst old hold

/-- Entries that are gathered have distinct keys. -/
private theorem distinctKeys_gather (entries : List (Scalar × Value)) :
    DistinctKeys (gather entries) := by
  have hfoldl : ∀ done : List (Scalar × Value), DistinctKeys done →
      DistinctKeys (entries.foldl (fun done entry => insert entry.1 entry.2 done) done) := by
    induction entries with
    | nil => exact fun done hdone => hdone
    | cons entry entries ih =>
      exact fun done hdone => ih _ (DistinctKeys.insert entry.1 entry.2 hdone)
  exact hfoldl [] List.Pairwise.nil

/-! ### Collections and documents -/

/-- If a collection is a mapping, its keys are distinct. -/
def KeepsKeysApart (c : Collection) : Prop :=
  ∀ entries, c = .mapping entries → DistinctKeys entries

private theorem keepsKeysApart_list (items : List Value) : KeepsKeysApart (.list items) := by
  rintro entries ⟨⟩

private theorem keepsKeysApart_set (members : List Scalar) : KeepsKeysApart (.set members) := by
  rintro entries ⟨⟩

variable (g : Graph)

private theorem yieldsOnly_collectionOf (id : Nat) :
    YieldsOnly (fun built => KeepsKeysApart built.1) (collectionOf g id) := by
  unfold collectionOf
  split
  · exact (yieldsOnly_any _).bind fun items _ => yieldsOnly_ok (keepsKeysApart_list items)
  · refine (yieldsOnly_any _).bind fun entries _ => yieldsOnly_ok ?_
    rintro _ ⟨⟩
    exact distinctKeys_gather entries
  · exact (yieldsOnly_any _).bind fun _ _ => yieldsOnly_ok (keepsKeysApart_set _)
  · exact (yieldsOnly_any _).bind fun items _ => yieldsOnly_ok (keepsKeysApart_list items)
  · exact (yieldsOnly_any _).bind fun items _ => yieldsOnly_ok (keepsKeysApart_list items)
  · exact yieldsOnly_error _

private theorem yieldsOnly_build (bound : Nat) (queue : List Nat) {done : List (Nat × Collection)}
    (hdone : ∀ entry ∈ done, KeepsKeysApart entry.2) :
    YieldsOnly (fun cs => ∀ entry ∈ cs, KeepsKeysApart entry.2) (build g bound queue done) := by
  induction bound generalizing queue done with
  | zero =>
    cases queue with
    | nil => exact yieldsOnly_ok hdone
    | cons id queue => exact yieldsOnly_error _
  | succ bound ih =>
    cases queue with
    | nil => exact yieldsOnly_ok hdone
    | cons id queue =>
      rw [build]
      split
      · exact ih _ hdone
      · refine (yieldsOnly_collectionOf g id).bind fun c hc => ih _ ?_
        exact List.forall_mem_append.mpr ⟨hdone, List.forall_mem_singleton.mpr hc⟩

private theorem yieldsOnly_ofGraph : YieldsOnly HasDistinctKeys (ofGraph g) := by
  refine (yieldsOnly_any (valueOf g g.root)).bind fun root _ =>
    (yieldsOnly_build g _ _ (List.forall_mem_nil _)).bind fun cs hcs => yieldsOnly_ok ?_
  intro id entries hlookup
  obtain ⟨before, after, rfl, -⟩ := List.lookup_eq_some_iff.mp hlookup
  exact hcs _ (List.mem_append_right _ List.mem_cons_self) entries rfl

/-- **Every document that is read** has distinct keys. -/
theorem parse_hasDistinctKeys {text : String} {d : Document} (h : parse text = .ok d) :
    d.HasDistinctKeys := by
  rw [parse] at h
  split at h
  · cases h
  · obtain rfl := Except.ok.inj h
    intro id entries hlookup
    cases hlookup
  · split at h
    · cases h
    · exact yieldsOnly_ofGraph _ _ h

end Document

end Rulebook.Yaml
