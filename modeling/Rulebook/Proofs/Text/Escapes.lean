import Rulebook.Text.Escapes

/-!
# Texts with escape sequences

Taking out the escape sequences of a text changes it just when it holds one.

**Main fact.** `dropEscapes_eq_self_iff`: the texts that stay as they are.
-/

namespace Rulebook.Text

/-- A text **holds an escape sequence** when an escape character and an opening bracket in it are
followed by parameters and a letter. -/
def HoldsSequence (s : List Char) : Prop :=
  ∃ before rest, s = before ++ escapeCharacter :: '[' :: rest ∧ afterSequence? rest ≠ none

private theorem length_dropEscapes_le (s : List Char) : (dropEscapes s).length ≤ s.length := by
  fun_induction dropEscapes s with
  | case1 => exact Nat.le_refl _
  | case2 => exact Nat.le_refl _
  | case3 c d s _ rest hrest ih =>
    have hlt := afterSequence?_length hrest
    simp only [List.length_cons]
    omega
  | case4 c d s _ _ ih => exact Nat.succ_le_succ ih
  | case5 c d s _ ih => exact Nat.succ_le_succ ih

/-- A text that holds an escape sequence gets shorter. -/
private theorem length_dropEscapes_lt {s : List Char} (h : HoldsSequence s) :
    (dropEscapes s).length < s.length := by
  obtain ⟨before, tail, hs, htail⟩ := h
  fun_induction dropEscapes s generalizing before with
  | case1 => exact absurd (congrArg List.length hs) (by simp)
  | case2 => exact absurd (congrArg List.length hs) (by simp; omega)
  | case3 c d s _ rest hrest =>
    have hlt := afterSequence?_length hrest
    have hle := length_dropEscapes_le rest
    simp only [List.length_cons]
    omega
  | case4 c d s _ hnone ih =>
    -- no sequence starts here, so the one in question starts further on
    cases before with
    | nil =>
      obtain ⟨-, hs⟩ := List.cons_eq_cons.mp hs
      obtain ⟨-, rfl⟩ := List.cons_eq_cons.mp hs
      exact absurd hnone htail
    | cons _ before => exact Nat.succ_lt_succ (ih before (List.cons_eq_cons.mp hs).2)
  | case5 c d s hc ih =>
    cases before with
    | nil =>
      obtain ⟨hfirst, hs⟩ := List.cons_eq_cons.mp hs
      obtain ⟨hsecond, -⟩ := List.cons_eq_cons.mp hs
      exact absurd (by rw [decide_eq_true hfirst, decide_eq_true hsecond, Bool.and_self]) hc
    | cons _ before => exact Nat.succ_lt_succ (ih before (List.cons_eq_cons.mp hs).2)

/-- **A text stays as it is** just when it holds no escape sequence. -/
theorem dropEscapes_eq_self_iff {s : List Char} : dropEscapes s = s ↔ ¬ HoldsSequence s := by
  constructor
  · intro h hs
    have hlt := length_dropEscapes_lt hs
    rw [h] at hlt
    exact Nat.lt_irrefl _ hlt
  · intro h
    fun_induction dropEscapes s with
    | case1 => rfl
    | case2 => rfl
    | case3 c d s hc rest hrest =>
      obtain ⟨hc, hd⟩ := Bool.and_eq_true_iff.mp hc
      obtain rfl := of_decide_eq_true hc
      obtain rfl := of_decide_eq_true hd
      exact absurd ⟨[], s, rfl, hrest ▸ Option.some_ne_none rest⟩ h
    | case4 c d s _ _ ih =>
      refine congrArg (c :: ·) (ih ?_)
      rintro ⟨before, tail, hs, htail⟩
      exact h ⟨c :: before, tail, congrArg (c :: ·) hs, htail⟩
    | case5 c d s _ ih =>
      refine congrArg (c :: ·) (ih ?_)
      rintro ⟨before, tail, hs, htail⟩
      exact h ⟨c :: before, tail, congrArg (c :: ·) hs, htail⟩

end Rulebook.Text
