import Rulebook.Text.Blank
import Mathlib.Data.List.DropRight

/-!
# Trimming and concatenation

A text is what trimming leaves of it with blanks around it, so every fact about trimming is a fact
about blanks at the ends of a concatenation. This module says how trimming one end acts on a
concatenation, and that the two ends may be trimmed in either order.

**Main facts.** `trimStart_trimEnd`: the two ends are trimmed independently. `trim_trimEnd`: what
stands between the blanks does not depend on the blanks at the end. `trim_eq_self`: a text that
neither starts nor ends with a blank is left alone.
-/

namespace Rulebook.Text

/-- A text **holds only blanks** when each of its characters is one. -/
def OnlyBlanks (s : List Char) : Prop :=
  ∀ c ∈ s, isBlank c = true

instance (s : List Char) : Decidable (OnlyBlanks s) :=
  decidable_of_iff (s.all isBlank = true) List.all_eq_true

theorem onlyBlanks_nil : OnlyBlanks [] :=
  List.forall_mem_nil _

theorem onlyBlanks_cons {c : Char} {s : List Char} :
    OnlyBlanks (c :: s) ↔ isBlank c = true ∧ OnlyBlanks s :=
  List.forall_mem_cons

theorem isBlank_return : isBlank '\r' = true := by decide

/-! ### The end of a text -/

/-- A text is what trimming its end leaves, followed by blanks. -/
theorem exists_blanks_behind (s : List Char) :
    ∃ blanks, OnlyBlanks blanks ∧ s = trimEnd s ++ blanks :=
  ⟨s.rtakeWhile isBlank, fun _ => List.mem_rtakeWhile_imp,
    List.rdropWhile_append_rtakeWhile.symm⟩

theorem trimEnd_eq_nil_iff {s : List Char} : trimEnd s = [] ↔ OnlyBlanks s :=
  List.rdropWhile_eq_nil_iff

@[simp] theorem trimEnd_trimEnd (s : List Char) : trimEnd (trimEnd s) = trimEnd s :=
  List.rdropWhile_idempotent _ _

/-- A text that does not end with a blank keeps its end. -/
private theorem trimEnd_eq_self {s : List Char} (h : ∀ c ∈ s.getLast?, isBlank c = false) :
    trimEnd s = s := by
  refine List.rdropWhile_eq_self_iff.mpr fun hne hblank => ?_
  have hlast := h _ (List.getLast_mem_getLast? hne)
  rw [hlast] at hblank
  exact Bool.false_ne_true hblank

/-- Blanks at the end are gone after trimming. -/
theorem isBlank_getLast?_trimEnd (s : List Char) :
    ∀ c ∈ (trimEnd s).getLast?, isBlank c = false := by
  intro c hc
  have hne : trimEnd s ≠ [] := by
    intro hnil
    rw [hnil] at hc
    exact absurd hc (Option.not_mem_none _)
  rw [List.getLast?_eq_some_getLast hne] at hc
  obtain rfl := Option.some.inj hc
  exact Bool.eq_false_iff.mpr (List.rdropWhile_last_not _ _ hne)

/-- Where something is left of an end, all that is ahead of it stays. -/
theorem trimEnd_append {t : List Char} (h : ¬ OnlyBlanks t) (s : List Char) :
    trimEnd (s ++ t) = s ++ trimEnd t := by
  obtain ⟨blanks, hblanks, ht⟩ := exists_blanks_behind t
  have hkeep : trimEnd (s ++ trimEnd t) = s ++ trimEnd t := by
    refine trimEnd_eq_self fun c hc => isBlank_getLast?_trimEnd t c ?_
    rwa [List.getLast?_append_of_ne_nil _ (mt trimEnd_eq_nil_iff.mp h)] at hc
  calc trimEnd (s ++ t) = trimEnd (s ++ trimEnd t ++ blanks) := by
        rw [List.append_assoc, ← ht]
    _ = s ++ trimEnd t := by rw [trimEnd_append_of_blank _ hblanks, hkeep]

/-- Where more than blanks is left, the first character stays at the front. -/
theorem trimEnd_cons_of_not_onlyBlanks {c : Char} {s : List Char} (h : ¬ OnlyBlanks (c :: s)) :
    trimEnd (c :: s) = c :: trimEnd s := by
  by_cases hs : OnlyBlanks s
  · have hblank : isBlank c = false :=
      Bool.eq_false_iff.mpr fun hc => h (onlyBlanks_cons.mpr ⟨hc, hs⟩)
    have hone : trimEnd ([c] ++ s) = trimEnd [c] := trimEnd_append_of_blank [c] hs
    have hc : trimEnd [c] = [c] := trimEnd_eq_self fun d hd => Option.some.inj hd ▸ hblank
    rw [trimEnd_eq_nil_iff.mpr hs, ← hc]
    exact hone
  · exact trimEnd_append hs [c]

/-- A character that is no blank stays at the front. -/
theorem trimEnd_cons {c : Char} (h : isBlank c = false) (s : List Char) :
    trimEnd (c :: s) = c :: trimEnd s :=
  trimEnd_cons_of_not_onlyBlanks fun hall =>
    Bool.false_ne_true (h.symm.trans (hall c List.mem_cons_self))

/-! ### The start of a text -/

private theorem trimStart_eq_nil_iff {s : List Char} : trimStart s = [] ↔ OnlyBlanks s :=
  List.dropWhile_eq_nil_iff

/-- Blanks at the start are lost without a trace. -/
theorem trimStart_append_of_blank {s : List Char} (h : OnlyBlanks s) (t : List Char) :
    trimStart (s ++ t) = trimStart t :=
  List.dropWhile_append_of_pos h

/-- A text that does not start with a blank keeps its start. -/
theorem trimStart_eq_self {s : List Char} (h : ∀ c ∈ s.head?, isBlank c = false) :
    trimStart s = s := by
  cases s with
  | nil => rfl
  | cons c s => exact List.dropWhile_cons_of_neg (by rw [h c rfl]; exact Bool.false_ne_true)

/-- A text is blanks, followed by what trimming its start leaves. -/
theorem exists_blanks_ahead (s : List Char) :
    ∃ blanks, OnlyBlanks blanks ∧ s = blanks ++ trimStart s :=
  ⟨s.takeWhile isBlank, fun _ => List.mem_takeWhile_imp, List.takeWhile_append_dropWhile.symm⟩

/-- Blanks at the start are gone after trimming. -/
theorem isBlank_head?_trimStart (s : List Char) :
    ∀ c ∈ (trimStart s).head?, isBlank c = false := by
  intro c hc
  induction s with
  | nil => exact absurd hc (Option.not_mem_none _)
  | cons d s ih =>
    rw [trimStart, List.dropWhile_cons] at hc
    split at hc
    · exact ih hc
    · next hd => exact Option.some.inj hc ▸ Bool.eq_false_iff.mpr hd

/-! ### Both ends -/

/-- The two ends are trimmed independently. -/
theorem trimStart_trimEnd (s : List Char) : trimStart (trimEnd s) = trimEnd (trimStart s) := by
  obtain ⟨blanks, hblanks, hs⟩ := exists_blanks_ahead s
  by_cases hrest : OnlyBlanks (trimStart s)
  · have hall : OnlyBlanks s := hs ▸ List.forall_mem_append.mpr ⟨hblanks, hrest⟩
    rw [trimEnd_eq_nil_iff.mpr hall, trimEnd_eq_nil_iff.mpr hrest]
    rfl
  · have hend : trimEnd s = blanks ++ trimEnd (trimStart s) := by
      conv_lhs => rw [hs]
      exact trimEnd_append hrest blanks
    rw [hend, trimStart_append_of_blank hblanks]
    -- what is left starts as it did before its end was trimmed
    refine trimStart_eq_self fun c hc => isBlank_head?_trimStart s c ?_
    obtain ⟨tail, htail⟩ : trimEnd (trimStart s) <+: trimStart s := List.rdropWhile_prefix _ _
    rw [← htail, List.head?_append, Option.mem_def.mp hc]
    rfl

/-- What stands between the blanks does not depend on the blanks at the end. -/
theorem trim_trimEnd (s : List Char) : trim (trimEnd s) = trim s := by
  rw [trim, trimStart_trimEnd, trimEnd_trimEnd, trim]

theorem trim_eq_nil_iff {s : List Char} : trim s = [] ↔ OnlyBlanks s := by
  rw [trim, trimEnd_eq_nil_iff]
  constructor
  · intro h
    obtain ⟨blanks, hblanks, hs⟩ := exists_blanks_ahead s
    exact hs ▸ List.forall_mem_append.mpr ⟨hblanks, h⟩
  · intro h
    rw [trimStart_eq_nil_iff.mpr h]
    exact onlyBlanks_nil

/-- Blanks at the end are lost without a trace. -/
theorem trim_append_of_blank_right (s : List Char) {t : List Char} (h : OnlyBlanks t) :
    trim (s ++ t) = trim s := by
  rw [← trim_trimEnd, trimEnd_append_of_blank s h, trim_trimEnd]

/-- Blanks at the start are lost without a trace. -/
theorem trim_append_of_blank {s : List Char} (h : OnlyBlanks s) (t : List Char) :
    trim (s ++ t) = trim t :=
  congrArg trimEnd (trimStart_append_of_blank h t)

/-- A text that holds more than blanks has a first character that is none. -/
theorem exists_first_of_not_onlyBlanks {s : List Char} (h : ¬ OnlyBlanks s) :
    ∃ before c rest, OnlyBlanks before ∧ isBlank c = false ∧ s = before ++ c :: rest := by
  obtain ⟨before, hbefore, hs⟩ := exists_blanks_ahead s
  obtain ⟨c, rest, hrest⟩ := List.exists_cons_of_ne_nil (mt trimStart_eq_nil_iff.mp h)
  refine ⟨before, c, rest, hbefore, isBlank_head?_trimStart s c ?_, hrest ▸ hs⟩
  rw [hrest]
  rfl

/-- The first character that is no blank stays at the front. -/
theorem trim_append_cons {before : List Char} (hbefore : OnlyBlanks before) {c : Char}
    (hc : isBlank c = false) (rest : List Char) :
    trim (before ++ c :: rest) = c :: trimEnd rest := by
  have hstart : trimStart (c :: rest) = c :: rest :=
    trimStart_eq_self fun d hd => Option.some.inj hd ▸ hc
  rw [trim_append_of_blank hbefore, trim, hstart, trimEnd_cons hc]

theorem mem_of_mem_trim {s : List Char} {c : Char} (h : c ∈ trim s) : c ∈ s :=
  (List.dropWhile_suffix _).subset ((List.rdropWhile_prefix _ _).subset h)

/-- Trimming the start as well takes nothing but blanks away. -/
theorem mem_trimEnd_of_mem_trim {s : List Char} {c : Char} (h : c ∈ trim s) : c ∈ trimEnd s := by
  rw [trim, ← trimStart_trimEnd] at h
  exact (List.dropWhile_suffix _).subset h

/-- A text that neither starts nor ends with a blank is left alone. -/
theorem trim_eq_self {s : List Char} (hstart : ∀ c ∈ s.head?, isBlank c = false)
    (hend : ∀ c ∈ s.getLast?, isBlank c = false) : trim s = s := by
  rw [trim, trimStart_eq_self hstart, trimEnd_eq_self hend]

end Rulebook.Text
