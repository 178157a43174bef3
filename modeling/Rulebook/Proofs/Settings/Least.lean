import Mathlib.Data.List.Lex
import Rulebook.Settings.Schema

/-!
# The least place

Places are compared step by step, and a place comes before those inside it. Fields go by their
names and members by their positions. A field is never compared with a member where two places of
the schema differ first, because the steps that can be taken there are of one kind.

**Main facts.** `Place.before_iff_lex_precedes`: how two places of the schema compare.
`Schema.least?_eq_some`: nothing comes before the place of the violation that is picked.
-/

namespace Rulebook.Settings

/-! ### All places -/

/-- The order of steps, as a relation. -/
def Step.Before (a b : Step) : Prop :=
  a.before b = true

namespace Step

private theorem before_field {a b : String} : Before (field a) (field b) ↔ a < b :=
  decide_eq_true_iff

private theorem before_member {i j : Nat} : Before (member i) (member j) ↔ i < j :=
  decide_eq_true_iff

private theorem before_field_member (a : String) (i : Nat) : Before (field a) (member i) := rfl

private theorem not_before_member_field (i : Nat) (a : String) : ¬ Before (member i) (field a) :=
  Bool.false_ne_true

instance : Std.Asymm Before where
  asymm a b := by
    cases a <;> cases b <;>
      simp only [before_field, before_member, before_field_member, not_before_member_field,
        not_true_eq_false, not_false_eq_true, false_implies, forall_const]
    · exact String.lt_asymm
    · omega

instance : Std.Trichotomous Before where
  trichotomous a b := by
    cases a <;> cases b <;>
      simp only [before_field, before_member, before_field_member, not_before_member_field,
        not_true_eq_false, not_false_eq_true, false_implies, forall_const, field.injEq,
        member.injEq]
    · intro hab hba
      exact String.le_antisymm (String.not_lt.mp hba) (String.not_lt.mp hab)
    · omega

/-- What comes before a step comes before a third one or has that one before it. -/
instance : IsOrderConnected Step Before where
  conn a b c := by
    cases a <;> cases b <;> cases c <;>
      simp only [before_field, before_member, before_field_member, not_before_member_field,
        false_implies, forall_const, true_or, or_true, or_false, implies_true]
    · intro hac
      refine Decidable.or_iff_not_imp_left.mpr fun hab => String.not_le.mp fun hbc => ?_
      exact String.not_le.mpr hac (String.le_trans hbc (String.not_lt.mp hab))
    · omega

end Step

namespace Place

variable {p q : Place}

/-- Places are in the lexicographic order of steps. -/
private theorem before_iff_lex : p.before q = true ↔ List.Lex Step.Before p q := by
  induction p generalizing q with
  | nil =>
    cases q with
    | nil => exact iff_of_false Bool.false_ne_true List.not_lex_nil
    | cons b q => exact iff_of_true rfl .nil
  | cons a p ih =>
    cases q with
    | nil => exact iff_of_false Bool.false_ne_true List.not_lex_nil
    | cons b q =>
      rw [before, Bool.or_eq_true, Bool.and_eq_true, decide_eq_true_iff, ih]
      constructor
      · rintro (hab | ⟨rfl, hpq⟩)
        · exact .rel hab
        · exact .cons hpq
      · rintro (- | hab | hpq)
        · exact .inl hab
        · exact .inr ⟨rfl, hpq⟩

theorem before_asymm (h : p.before q = true) : ¬ q.before p = true := by
  rw [before_iff_lex] at h ⊢
  exact Std.Asymm.asymm _ _ h

/-- Two places of which neither comes before the other are the same. -/
theorem eq_of_not_before (hpq : ¬ p.before q = true) (hqp : ¬ q.before p = true) : p = q := by
  rw [before_iff_lex] at hpq hqp
  exact Std.Trichotomous.trichotomous p q hpq hqp

private theorem not_before_trans {r : Place} (hpq : ¬ p.before q = true)
    (hqr : ¬ q.before r = true) :
    ¬ p.before r = true := by
  rw [before_iff_lex] at hpq hqr ⊢
  exact fun hpr => (IsOrderConnected.conn p q r hpr).elim hpq hqr

end Place

/-! ### The places of the schema -/

/-- The order of the steps that can be taken from one value: fields come in order of their names
and members in order of their positions. -/
inductive Step.Precedes : Step → Step → Prop
  | field {a b : String} (h : a < b) : Precedes (field a) (field b)
  | member {i j : Nat} (h : i < j) : Precedes (member i) (member j)

private theorem Step.Precedes.before {a b : Step} (h : a.Precedes b) : a.Before b := by
  cases h with
  | field h => exact before_field.mpr h
  | member h => exact before_member.mpr h

/-- The places of which the schema asks something: the document, its fields and the members of
these. -/
inductive Place.IsOfSchema : Place → Prop
  | root : IsOfSchema []
  | field (name : String) : IsOfSchema [.field name]
  | member (name : String) (i : Nat) : IsOfSchema [.field name, .member i]

/-- **Two places of the schema** are compared by names and by positions, never a name with a
position. -/
theorem Place.before_iff_lex_precedes {p q : Place} (hp : p.IsOfSchema) (hq : q.IsOfSchema) :
    p.before q = true ↔ List.Lex Step.Precedes p q := by
  rw [before_iff_lex]
  refine ⟨fun h => ?_, List.Lex.imp (fun a b => Step.Precedes.before) p q⟩
  have hfield {a b : String} (hab : Step.Before (.field a) (.field b)) :
      Step.Precedes (.field a) (.field b) :=
    .field (Step.before_field.mp hab)
  -- first steps are fields and second steps are members, so a field never meets a member
  cases hp with
  | root =>
    cases h with
    | nil => exact .nil
  | field name =>
    cases hq with
    | root => cases h
    | field =>
      cases h with
      | rel h => exact .rel (hfield h)
      | cons h => cases h
    | member =>
      cases h with
      | rel h => exact .rel (hfield h)
      | cons h => exact .cons .nil
  | member name i =>
    cases hq with
    | root => cases h
    | field =>
      cases h with
      | rel h => exact .rel (hfield h)
      | cons h => cases h
    | member =>
      cases h with
      | rel h => exact .rel (hfield h)
      | cons h =>
        have hmember := List.lex_singleton_iff _ _ |>.mp h
        exact .cons (.rel (.member (Step.before_member.mp hmember)))

/-! ### The violation that is picked -/

namespace Schema

variable {vs : List Violation} {v : Violation}

theorem least?_eq_none_iff : least? vs = none ↔ vs = [] := by
  cases vs with
  | nil => exact iff_of_true rfl rfl
  | cons v vs =>
    refine iff_of_false (fun h => ?_) (List.cons_ne_nil v vs)
    rw [least?] at h
    split at h
    · cases h
    · split at h <;> cases h

/-- **The violation that is picked** is one of those there are, and none is at a place before it. -/
theorem least?_eq_some (h : least? vs = some v) :
    v ∈ vs ∧ ∀ w ∈ vs, ¬ w.place.before v.place = true := by
  induction vs generalizing v with
  | nil => cases h
  | cons u vs ih =>
    have hself (p : Place) : ¬ p.before p = true := fun hp => Place.before_asymm hp hp
    rw [least?] at h
    split at h
    · next hnone =>
      obtain rfl := Option.some.inj h
      obtain rfl := least?_eq_none_iff.mp hnone
      exact ⟨List.mem_cons_self, List.forall_mem_singleton.mpr (hself _)⟩
    · next w hw =>
      obtain ⟨hmem, hleast⟩ := ih hw
      split at h
      · next hbefore =>
        obtain rfl := Option.some.inj h
        exact ⟨List.mem_cons_of_mem _ hmem,
          List.forall_mem_cons.mpr ⟨Place.before_asymm hbefore, hleast⟩⟩
      · next hbefore =>
        obtain rfl := Option.some.inj h
        refine ⟨List.mem_cons_self, List.forall_mem_cons.mpr ⟨hself _, fun x hx => ?_⟩⟩
        exact Place.not_before_trans (hleast x hx) hbefore

end Schema

end Rulebook.Settings
