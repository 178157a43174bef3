import Rulebook.Path
import Mathlib.Data.List.Basic

/-!
# Paths that lie at or below one another

A path **covers** the paths that continue it, itself included. Two paths are **apart** when neither
covers the other: then no path lies below both.

**Main facts.** `covers_child_iff`: an entry of a folder is covered by what covers the folder, and
by itself. `apart_child_child`: the entries of a folder are apart from each other.
-/

namespace Rulebook.Path

variable {p q r : Path} {a b : String}

/-- A path **covers** those that are the path itself or continue it. -/
def Covers (p q : Path) : Prop :=
  p.anchor = q.anchor ∧ p.segments <+: q.segments

/-- Two paths are **apart** when neither of them covers the other. -/
def Apart (p q : Path) : Prop :=
  ¬ p.Covers q ∧ ¬ q.Covers p

theorem Covers.refl (p : Path) : p.Covers p :=
  ⟨rfl, List.prefix_rfl⟩

private theorem Covers.trans (h : p.Covers q) (h' : q.Covers r) : p.Covers r :=
  ⟨h.1.trans h'.1, h.2.trans h'.2⟩

theorem covers_child (p : Path) (a : String) : p.Covers (p.child a) :=
  ⟨rfl, List.prefix_append p.segments [a]⟩

theorem child_injective (p : Path) : Function.Injective p.child := by
  intro a b h
  have hs : p.segments ++ [a] = p.segments ++ [b] := congrArg Path.segments h
  exact List.singleton_inj.mp (List.append_cancel_left hs)

/-- What covers an entry of a folder covers the folder, or is the entry. -/
theorem covers_child_iff : q.Covers (p.child a) ↔ q.Covers p ∨ q = p.child a := by
  constructor
  · rintro ⟨hanchor, hpre⟩
    rcases List.prefix_concat_iff.mp hpre with h | h
    · obtain ⟨c, ss⟩ := q
      obtain rfl : c = p.anchor := hanchor
      obtain rfl : ss = p.segments ++ [a] := h
      exact Or.inr rfl
    · exact Or.inl ⟨hanchor, h⟩
  · rintro (h | rfl)
    · exact h.trans (covers_child p a)
    · exact Covers.refl _

theorem not_child_covers (p : Path) (a : String) : ¬ (p.child a).Covers p := by
  rintro ⟨-, h⟩
  have hlen : (p.segments ++ [a]).length ≤ p.segments.length := h.length_le
  rw [List.length_append] at hlen
  exact Nat.not_succ_le_self _ hlen

/-- The entries of a folder are apart. -/
theorem apart_child_child (h : a ≠ b) : (p.child a).Apart (p.child b) := by
  have hne : ∀ {c d : String}, c ≠ d → ¬ (p.child c).Covers (p.child d) := fun hcd hcov =>
    (covers_child_iff.mp hcov).elim (not_child_covers p _) fun he => hcd (child_injective p he)
  exact ⟨hne h, hne h.symm⟩

theorem Apart.ne (h : p.Apart q) : p ≠ q := by
  rintro rfl
  exact h.1 (Covers.refl p)

/-- What is apart from a folder is apart from its entries. -/
theorem Apart.child (h : p.Apart q) (a : String) : (p.child a).Apart q := by
  refine ⟨fun hcov => h.1 ((covers_child p a).trans hcov), fun hcov => ?_⟩
  rcases covers_child_iff.mp hcov with hq | rfl
  · exact h.2 hq
  · exact h.1 (covers_child p a)

/-- What does not lie in a folder does not lie in one of its entries. -/
theorem not_child_covers_of_not (h : ¬ p.Covers q) (a : String) : ¬ (p.child a).Covers q :=
  fun hcov => h ((covers_child p a).trans hcov)

end Rulebook.Path
