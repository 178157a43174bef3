import Mathlib.Data.List.TakeWhile

/-!
# Patterns

A pattern matches the start of a text, perhaps in several ways. It lists these ways in the order in
which they are to be tried: the longest one first if it takes as many characters as it can, and the
shortest one first if it takes as few. Two patterns in a row try each way of the second before they
go back to the next way of the first, so that the first way in the list is the one that is found by
going back as little as possible.

**Main facts.** `first?_many_bind`: there is no need to go back for a pattern that takes as many
characters as it can if none of these could have stood behind it. So it is with the characters up to
another one of a different kind (`first?_upTo_append`, `first?_upTo_of_ne`).
-/

namespace Rulebook.Text

/-- A **pattern** lists what it catches at the start of a text, with what is left of the text. -/
def Pattern (α : Type) : Type :=
  List Char → List (α × List Char)

namespace Pattern

variable {α β : Type} {p : Char → Bool}

instance : Monad Pattern where
  pure a := fun s => [(a, s)]
  bind x f := fun s => (x s).flatMap fun way => f way.1 way.2

/-- One character. -/
def one (p : Char → Bool) : Pattern Char
  | [] => []
  | c :: s => if p c then [(c, s)] else []

/-- As many characters as there are, or fewer. -/
def many (p : Char → Bool) : Pattern (List Char)
  | [] => [([], [])]
  | c :: s =>
    if p c then (many p s).map (fun way => (c :: way.1, way.2)) ++ [([], c :: s)]
    else [([], c :: s)]

/-- As few characters as will do, and at least one. -/
def few (p : Char → Bool) : Pattern (List Char)
  | [] => []
  | c :: s => if p c then ([c], s) :: (few p s).map (fun way => (c :: way.1, way.2)) else []

/-- The end of a text, which a last line feed does not put off. -/
def stop : Pattern Unit := fun s =>
  if s = [] ∨ s = ['\n'] then [((), s)] else []

/-- What is caught by the first way to match a text. -/
def first? (x : Pattern α) (s : List Char) : Option α :=
  (x s).head?.map Prod.fst

/-! ### The first way -/

theorem first?_pure (a : α) (s : List Char) : (pure a : Pattern α).first? s = some a := rfl

/-- The ways of the first pattern are tried in turn. -/
private theorem first?_bind (x : Pattern α) (f : α → Pattern β) (s : List Char) :
    (x >>= f).first? s = (x s).findSome? fun way => (f way.1).first? way.2 := by
  rw [first?, show (x >>= f) s = (x s).flatMap fun way => f way.1 way.2 from rfl,
    List.head?_flatMap, List.map_findSome?]
  rfl

section Steps

variable (c : Char) (s : List Char)

theorem first?_one_bind_cons (f : Char → Pattern β) :
    (one p >>= f).first? (c :: s) = if p c then (f c).first? s else none := by
  rw [first?_bind, one]
  split
  · exact List.findSome?_singleton
  · rfl

private theorem first?_many_bind_nil (f : List Char → Pattern β) :
    (many p >>= f).first? [] = (f []).first? [] := by
  rw [first?_bind]
  exact List.findSome?_singleton

theorem first?_many_bind_cons (f : List Char → Pattern β) :
    (many p >>= f).first? (c :: s) =
      if p c then ((many p >>= fun t => f (c :: t)).first? s).or ((f []).first? (c :: s))
      else (f []).first? (c :: s) := by
  rw [first?_bind, first?_bind, many]
  split
  · rw [List.findSome?_append, List.findSome?_map, List.findSome?_singleton]
    rfl
  · exact List.findSome?_singleton

theorem first?_few_bind_nil (f : List Char → Pattern β) : (few p >>= f).first? [] = none := rfl

theorem first?_few_bind_cons (f : List Char → Pattern β) :
    (few p >>= f).first? (c :: s) =
      if p c then ((f [c]).first? s).or ((few p >>= fun t => f (c :: t)).first? s) else none := by
  rw [first?_bind, first?_bind, few]
  split
  · rw [List.findSome?_cons, List.findSome?_map]
    cases (f [c]).first? s <;> rfl
  · rfl

theorem first?_stop_bind (f : Unit → Pattern β) :
    (stop >>= f).first? s = if s = [] ∨ s = ['\n'] then (f ()).first? s else none := by
  rw [first?_bind, stop]
  split
  · exact List.findSome?_singleton
  · rfl

end Steps

/-- Where none of its characters could stand behind it, a pattern takes as many as there are. -/
theorem first?_many_bind {f : List Char → Pattern β}
    (hf : ∀ t c s, p c = true → (f t).first? (c :: s) = none) (s : List Char) :
    (many p >>= f).first? s = (f (s.takeWhile p)).first? (s.dropWhile p) := by
  induction s generalizing f with
  | nil => exact first?_many_bind_nil f
  | cons c s ih =>
    rw [first?_many_bind_cons]
    split
    · next hc =>
      rw [hf [] c s hc, Option.or_none, ih fun t => hf (c :: t), List.takeWhile_cons_of_pos hc,
        List.dropWhile_cons_of_pos hc]
    · next hc => rw [List.takeWhile_cons_of_neg hc, List.dropWhile_cons_of_neg hc]

/-! ### Characters up to another one -/

section UpTo

variable {d : Char} (hd : p d = false)

include hd

/-- Characters that come up to another one of a different kind are all taken. -/
private theorem first?_upTo (f : List Char → Pattern β) (s : List Char) :
    (do let t ← many p; let _ ← one fun c => c = d; f t).first? s =
      (do let _ ← one fun c => c = d; f (s.takeWhile p)).first? (s.dropWhile p) := by
  refine first?_many_bind (fun t c rest hc => ?_) s
  rw [first?_one_bind_cons, if_neg]
  intro hcd
  rw [of_decide_eq_true hcd, hd] at hc
  exact Bool.false_ne_true hc

theorem first?_upTo_append {t : List Char} (ht : ∀ c ∈ t, p c = true) (f : List Char → Pattern β)
    (s : List Char) :
    (do let t ← many p; let _ ← one fun c => c = d; f t).first? (t ++ d :: s) = (f t).first? s := by
  have hneg : ¬ p d = true := by rw [hd]; exact Bool.false_ne_true
  rw [first?_upTo hd, List.takeWhile_append_of_pos ht, List.dropWhile_append_of_pos ht,
    List.takeWhile_cons_of_neg hneg, List.dropWhile_cons_of_neg hneg, List.append_nil,
    first?_one_bind_cons]
  exact if_pos (decide_eq_true rfl)

theorem first?_upTo_of_ne {s : List Char}
    (hs : ∀ t rest, (∀ c ∈ t, p c = true) → s ≠ t ++ d :: rest) (f : List Char → Pattern β) :
    (do let t ← many p; let _ ← one fun c => c = d; f t).first? s = none := by
  rw [first?_upTo hd]
  cases hrest : s.dropWhile p with
  | nil => rfl
  | cons c rest =>
    rw [first?_one_bind_cons, if_neg]
    intro hcd
    refine hs (s.takeWhile p) rest (fun _ => List.mem_takeWhile_imp) ?_
    rw [← of_decide_eq_true hcd, ← hrest, List.takeWhile_append_dropWhile]

end UpTo

end Pattern

end Rulebook.Text
