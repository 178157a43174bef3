import Mathlib.Algebra.Ring.Parity
import Mathlib.Data.List.DropRight
import Rulebook.Text.Emoji

/-!
# Texts with emoji codes

The colons of a word are taken in pairs, from its start: what stands between the two of a pair is a
code, and a known code is replaced. So a text changes just when it holds a known code, and then it
loses colons.

The reader of codes is a machine: it holds back what it has read since a colon, and lets it go when
a blank or another colon comes. `replaceEmojiFrom_cons` is one step of it, and `HoldsCodeFrom` says
that some step of it completes a known code.

**Main facts.** `replaceEmoji_eq_self_iff`: the texts that stay as they are.
`holdsCode_append_cons_blank`: no code spans a blank.
-/

namespace Rulebook.Text

/-! ### What is held back -/

/-- What has been read since a colon, when one more character has been read. -/
def pendingStep (pending : Option (List Char)) (c : Char) : Option (List Char) :=
  match pending with
  | none => if c = ':' then some [] else none
  | some code => if c = ':' ∨ isBlank c then none else some (code ++ [c])

/-- What is held back of a text, where `pending` is what has been read since a colon. -/
def heldBack (pending : Option (List Char)) : List Char :=
  match pending with
  | none => []
  | some code => ':' :: code

/-- The colons of the word that a text ends with. -/
def colonsOfLastWord (s : List Char) : Nat :=
  (s.rtakeWhile fun c => !isBlank c).count ':'

/-- What stands between the two colons of a code: characters that are neither colons nor blanks. -/
def IsCode (code : List Char) : Prop :=
  ∀ c ∈ code, c ≠ ':' ∧ isBlank c = false

private theorem colonsOfLastWord_concat_of_blank (s : List Char) {c : Char}
    (hc : isBlank c = true) :
    colonsOfLastWord (s ++ [c]) = 0 := by
  rw [colonsOfLastWord, List.rtakeWhile_concat_neg _ _ _ (by simp [hc])]
  rfl

private theorem colonsOfLastWord_concat (s : List Char) {c : Char} (hc : isBlank c = false) :
    colonsOfLastWord (s ++ [c]) = colonsOfLastWord s + [c].count ':' := by
  rw [colonsOfLastWord, List.rtakeWhile_concat_pos _ _ _ (by simp [hc]), List.count_append]
  rfl

/-- The characters of a code are held back behind what is. -/
private theorem foldl_pendingStep_of_isCode {code : List Char} (h : IsCode code)
    (start : List Char) :
    code.foldl pendingStep (some start) = some (start ++ code) := by
  induction code generalizing start with
  | nil => rw [List.foldl_nil, List.append_nil]
  | cons c code ih =>
    obtain ⟨⟨hcolon, hblank⟩, hcode⟩ := List.forall_mem_cons.mp h
    have hstep : pendingStep (some start) c = some (start ++ [c]) := by
      simp [pendingStep, hcolon, hblank]
    rw [List.foldl_cons, hstep, ih hcode, List.append_assoc]
    rfl

/-- Behind a text nothing is held back if the colons of its last word are paired. Otherwise the code
behind the last colon is. -/
private theorem foldl_pendingStep_none (s : List Char) :
    Even (colonsOfLastWord s) ∧ s.foldl pendingStep none = none ∨
      Odd (colonsOfLastWord s) ∧ ∃ before code, s = before ++ ':' :: code ∧
        Even (colonsOfLastWord before) ∧ IsCode code ∧ s.foldl pendingStep none = some code := by
  induction s using List.reverseRecOn with
  | nil => exact .inl ⟨Even.zero, rfl⟩
  | append_singleton s c ih =>
    rw [List.foldl_concat]
    by_cases hblank : isBlank c = true
    · have hcolon : c ≠ ':' := by
        rintro rfl
        exact absurd hblank (by decide)
      refine .inl ⟨colonsOfLastWord_concat_of_blank s hblank ▸ Even.zero, ?_⟩
      obtain ⟨-, hs⟩ | ⟨-, before, code, -, -, -, hs⟩ := ih
      · rw [hs, pendingStep, if_neg hcolon]
      · rw [hs, pendingStep, if_pos (.inr hblank)]
    · rw [Bool.not_eq_true] at hblank
      rw [colonsOfLastWord_concat s hblank]
      by_cases hcolon : c = ':'
      · -- a colon opens a code or closes the one that is open
        subst hcolon
        obtain ⟨heven, hs⟩ | ⟨hodd, before, code, -, -, -, hs⟩ := ih
        · refine .inr ⟨heven.add_one, s, [], rfl, heven, List.forall_mem_nil _, ?_⟩
          rw [hs, pendingStep, if_pos rfl]
        · refine .inl ⟨hodd.add_one, ?_⟩
          rw [hs, pendingStep, if_pos (.inl rfl)]
      · rw [List.count_singleton, if_neg (by simpa using hcolon), Nat.add_zero]
        obtain ⟨heven, hs⟩ | ⟨hodd, before, code, rfl, hbefore, hcode, hs⟩ := ih
        · refine .inl ⟨heven, ?_⟩
          rw [hs, pendingStep, if_neg hcolon]
        · refine .inr ⟨hodd, before, code ++ [c], by simp, hbefore, ?_, ?_⟩
          · exact List.forall_mem_append.mpr ⟨hcode, List.forall_mem_singleton.mpr ⟨hcolon, hblank⟩⟩
          · rw [hs, pendingStep, if_neg (by simp [hcolon, hblank])]

/-! ### Known codes -/

variable [EmojiTable]

/-- A code is known if an emoji has its name. -/
def IsKnown (code : List Char) : Prop :=
  ∃ emoji, EmojiTable.emoji? (splitEmoji code).1 = some emoji

/-- A text **holds an emoji code** when a known code stands in it between two colons, and the colons
of the same word in front of them are paired. -/
def HoldsCode (s : List Char) : Prop :=
  ∃ before code after, s = before ++ ':' :: (code ++ ':' :: after) ∧
    Even (colonsOfLastWord before) ∧ IsCode code ∧ IsKnown code

/-- A character completes a known code that was held back. -/
def Completes (pending : Option (List Char)) (c : Char) : Prop :=
  c = ':' ∧ ∃ code, pending = some code ∧ IsKnown code

/-- A character of a text completes a known code, where `pending` was held back before. -/
def HoldsCodeFrom (pending : Option (List Char)) (s : List Char) : Prop :=
  ∃ before c after, s = before ++ c :: after ∧ Completes (before.foldl pendingStep pending) c

private theorem holdsCodeFrom_nil (pending : Option (List Char)) : ¬ HoldsCodeFrom pending [] := by
  rintro ⟨before, c, after, hs, -⟩
  exact absurd hs.symm (List.append_ne_nil_of_right_ne_nil before (List.cons_ne_nil c after))

private theorem holdsCodeFrom_cons {pending : Option (List Char)} {c : Char} {s : List Char} :
    HoldsCodeFrom pending (c :: s) ↔
      Completes pending c ∨ HoldsCodeFrom (pendingStep pending c) s := by
  constructor
  · rintro ⟨before, d, after, hs, hd⟩
    cases before with
    | nil =>
      obtain ⟨rfl, -⟩ := List.cons_eq_cons.mp hs
      exact .inl hd
    | cons e before =>
      obtain ⟨rfl, rfl⟩ := List.cons_eq_cons.mp hs
      exact .inr ⟨before, d, after, rfl, hd⟩
  · rintro (hc | ⟨before, d, after, rfl, hd⟩)
    · exact ⟨[], c, s, rfl, hc⟩
    · exact ⟨c :: before, d, after, rfl, hd⟩

private theorem holdsCodeFrom_append {pending : Option (List Char)} {s t : List Char} :
    HoldsCodeFrom pending (s ++ t) ↔
      HoldsCodeFrom pending s ∨ HoldsCodeFrom (s.foldl pendingStep pending) t := by
  induction s generalizing pending with
  | nil => exact (or_iff_right (holdsCodeFrom_nil pending)).symm
  | cons c s ih => rw [List.cons_append, holdsCodeFrom_cons, ih, holdsCodeFrom_cons, or_assoc,
      List.foldl_cons]

/-- A text holds a code just when reading it from its start completes one. -/
private theorem holdsCode_iff {s : List Char} : HoldsCode s ↔ HoldsCodeFrom none s := by
  constructor
  · rintro ⟨before, code, after, rfl, heven, hcode, hknown⟩
    have hbefore : before.foldl pendingStep none = none := by
      obtain ⟨-, hnone⟩ | ⟨hodd, -⟩ := foldl_pendingStep_none before
      · exact hnone
      · exact absurd heven (Nat.not_even_iff_odd.mpr hodd)
    refine ⟨before ++ ':' :: code, ':', after, by simp, rfl, code, ?_, hknown⟩
    rw [List.foldl_append, hbefore, List.foldl_cons]
    exact foldl_pendingStep_of_isCode hcode []
  · rintro ⟨read, c, after, rfl, rfl, code, hread, hknown⟩
    obtain ⟨-, hnone⟩ | ⟨-, before, code', rfl, heven, hcode, hsome⟩ :=
      foldl_pendingStep_none read
    · exact absurd (hread.symm.trans hnone) (Option.some_ne_none code)
    · obtain rfl := Option.some.inj (hread.symm.trans hsome)
      exact ⟨before, code, after, by simp, heven, hcode, hknown⟩

/-- **No code spans a blank.** -/
theorem holdsCode_append_cons_blank {s t : List Char} {c : Char} (hc : isBlank c = true) :
    HoldsCode (s ++ c :: t) ↔ HoldsCode s ∨ HoldsCode t := by
  have hcolon : c ≠ ':' := by
    rintro rfl
    exact absurd hc (by decide)
  have hnext : ∀ pending, pendingStep pending c = none := by
    intro pending
    cases pending with
    | none => rw [pendingStep, if_neg hcolon]
    | some code => rw [pendingStep, if_pos (.inr hc)]
  rw [holdsCode_iff, holdsCode_iff, holdsCode_iff, holdsCodeFrom_append, holdsCodeFrom_cons, hnext]
  exact or_congr_right (or_iff_right fun h => hcolon h.1)

/-- It takes two colons to hold a code. -/
theorem HoldsCode.two_le_count {s : List Char} (h : HoldsCode s) : 2 ≤ s.count ':' := by
  obtain ⟨before, code, after, rfl, -⟩ := h
  simp only [List.count_append, List.count_cons_self]
  omega

/-! ### One character -/

/-- What is let go when one more character has been read. -/
def letGo (pending : Option (List Char)) (c : Char) : List Char :=
  match pending with
  | none => if c = ':' then [] else [c]
  | some code => if c = ':' then showEmoji code else if isBlank c then ':' :: code ++ [c] else []

private theorem replaceEmojiFrom_nil (pending : Option (List Char)) :
    replaceEmojiFrom pending [] = heldBack pending := by
  cases pending <;> rfl

theorem replaceEmojiFrom_cons (pending : Option (List Char)) (c : Char) (s : List Char) :
    replaceEmojiFrom pending (c :: s) =
      letGo pending c ++ replaceEmojiFrom (pendingStep pending c) s := by
  cases pending with
  | none =>
    by_cases hc : c = ':'
    · simp [replaceEmojiFrom, letGo, pendingStep, hc]
    · simp [replaceEmojiFrom, letGo, pendingStep, hc]
  | some code =>
    by_cases hc : c = ':'
    · simp [replaceEmojiFrom, letGo, pendingStep, hc]
    · by_cases hblank : isBlank c = true
      · simp [replaceEmojiFrom, letGo, pendingStep, hc, hblank]
      · simp [replaceEmojiFrom, letGo, pendingStep, hc, hblank]

/-- A character that completes no known code is let go or held back, as all before it. -/
private theorem letGo_append_heldBack {pending : Option (List Char)} {c : Char}
    (h : ¬ Completes pending c) :
    letGo pending c ++ heldBack (pendingStep pending c) = heldBack pending ++ [c] := by
  cases pending with
  | none =>
    by_cases hc : c = ':'
    · simp [letGo, pendingStep, heldBack, hc]
    · simp [letGo, pendingStep, heldBack, hc]
  | some code =>
    by_cases hc : c = ':'
    · have hnone : EmojiTable.emoji? (splitEmoji code).1 = none :=
        Option.eq_none_iff_forall_ne_some.mpr fun emoji hemoji =>
          h ⟨hc, code, rfl, emoji, hemoji⟩
      simp [letGo, pendingStep, heldBack, hc, showEmoji, hnone]
    · by_cases hblank : isBlank c = true
      · simp [letGo, pendingStep, heldBack, hc, hblank]
      · simp [letGo, pendingStep, heldBack, hc, hblank]

/-- What a known code is shown as has no colon. -/
private theorem colon_notMem_showEmoji {code : List Char} (h : IsKnown code) :
    ':' ∉ showEmoji code := by
  obtain ⟨emoji, hemoji⟩ := h
  rw [showEmoji, hemoji]
  refine List.not_mem_append (EmojiTable.colon_notMem hemoji) ?_
  cases (splitEmoji code).2 <;> decide

/-- Two colons are lost where a known code is completed. -/
private theorem count_letGo_lt {pending : Option (List Char)} {c : Char} (h : Completes pending c) :
    (letGo pending c ++ heldBack (pendingStep pending c)).count ':' <
      (heldBack pending ++ [c]).count ':' := by
  obtain ⟨rfl, code, rfl, hknown⟩ := h
  rw [letGo, if_pos rfl, pendingStep, if_pos (.inl rfl), heldBack, heldBack, List.append_nil,
    List.count_eq_zero.mpr (colon_notMem_showEmoji hknown)]
  simp

/-! ### A whole text -/

/-- A text in which no known code is completed stays as it is. -/
private theorem replaceEmojiFrom_of_not_holdsCodeFrom {pending : Option (List Char)} {s : List Char}
    (h : ¬ HoldsCodeFrom pending s) : replaceEmojiFrom pending s = heldBack pending ++ s := by
  induction s generalizing pending with
  | nil => rw [replaceEmojiFrom_nil, List.append_nil]
  | cons c s ih =>
    rw [holdsCodeFrom_cons, not_or] at h
    calc replaceEmojiFrom pending (c :: s)
        = letGo pending c ++ (heldBack (pendingStep pending c) ++ s) := by
          rw [replaceEmojiFrom_cons, ih h.2]
      _ = heldBack pending ++ [c] ++ s := by rw [← List.append_assoc, letGo_append_heldBack h.1]
      _ = heldBack pending ++ c :: s := List.append_assoc _ [c] s

/-- No text gains colons. -/
theorem count_replaceEmojiFrom_le (pending : Option (List Char)) (s : List Char) :
    (replaceEmojiFrom pending s).count ':' ≤ (heldBack pending ++ s).count ':' := by
  induction s generalizing pending with
  | nil => rw [replaceEmojiFrom_nil, List.append_nil]
  | cons c s ih =>
    have hstep : (letGo pending c ++ heldBack (pendingStep pending c)).count ':' ≤
        (heldBack pending ++ [c]).count ':' := by
      by_cases hc : Completes pending c
      · exact (count_letGo_lt hc).le
      · rw [letGo_append_heldBack hc]
    have hrest := ih (pendingStep pending c)
    rw [replaceEmojiFrom_cons, List.append_cons]
    simp only [List.count_append] at hstep hrest ⊢
    omega

/-- A text in which a known code is completed loses colons. -/
private theorem count_replaceEmojiFrom_lt {pending : Option (List Char)} {s : List Char}
    (h : HoldsCodeFrom pending s) :
    (replaceEmojiFrom pending s).count ':' < (heldBack pending ++ s).count ':' := by
  induction s generalizing pending with
  | nil => exact absurd h (holdsCodeFrom_nil pending)
  | cons c s ih =>
    rw [replaceEmojiFrom_cons, List.append_cons]
    by_cases hc : Completes pending c
    · have hstep := count_letGo_lt hc
      have hrest := count_replaceEmojiFrom_le (pendingStep pending c) s
      simp only [List.count_append] at hstep hrest ⊢
      omega
    · have hstep := congrArg (List.count ':') (letGo_append_heldBack hc)
      have hrest := ih ((holdsCodeFrom_cons.mp h).resolve_left hc)
      simp only [List.count_append] at hstep hrest ⊢
      omega

/-- A text that holds a code loses colons. -/
theorem count_replaceEmoji_lt {s : List Char} (h : HoldsCode s) :
    (replaceEmoji s).count ':' < s.count ':' :=
  count_replaceEmojiFrom_lt (holdsCode_iff.mp h)

/-- **A text stays as it is** just when it holds no code. -/
theorem replaceEmoji_eq_self_iff {s : List Char} : replaceEmoji s = s ↔ ¬ HoldsCode s := by
  constructor
  · intro h hs
    have hlt := count_replaceEmoji_lt hs
    rw [h] at hlt
    exact Nat.lt_irrefl _ hlt
  · intro h
    exact replaceEmojiFrom_of_not_holdsCodeFrom (mt holdsCode_iff.mpr h)

instance (s : List Char) : Decidable (HoldsCode s) :=
  decidable_of_iff (¬ replaceEmoji s = s) (not_iff_comm.mp replaceEmoji_eq_self_iff.symm)

end Rulebook.Text
