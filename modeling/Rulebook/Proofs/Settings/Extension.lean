import Rulebook.Proofs.Text.Pattern
import Rulebook.Settings.Schema

/-!
# The pattern of extensions

An extension has to match `extensionPattern`: a dot, then as many word characters as there are, at
least one, and then the end of the text. A last line feed does not put off the end of a text, so a
text that is a dot and word characters may have one more line feed behind it.

**Main facts.** `isExtension_eq_matches`: `Schema.isExtension` tries this pattern.
`isExtension_iff_exists`: it accepts dotted words, and dotted words with a line feed behind them.
-/

namespace Rulebook.Settings

open Text Pattern

/-- The pattern that an extension has to match, and the word that it catches. -/
def extensionPattern : Pattern (List Char) := do
  let _ ← one fun c => c = '.'
  let first ← one isWord
  let more ← many isWord
  stop
  return first :: more

/-- A **word** is one or more word characters. -/
def IsWord (word : List Char) : Prop :=
  word ≠ [] ∧ ∀ c ∈ word, isWord c = true

/-- A text is a **dotted word** when it is a dot and a word, and nothing else. -/
def IsDottedWord (s : List Char) : Prop :=
  ∃ word, IsWord word ∧ s = '.' :: word

private theorem isWord_newline : isWord '\n' = false := by decide

private theorem IsWord.getLast?_ne {word : List Char} (h : IsWord word) :
    word.getLast? ≠ some '\n' := by
  intro hlast
  have hnewline := h.2 '\n' (List.mem_of_getLast? hlast)
  rw [isWord_newline] at hnewline
  exact Bool.false_ne_true hnewline

theorem IsDottedWord.getLast?_ne {s : List Char} (h : IsDottedWord s) : s.getLast? ≠ some '\n' := by
  obtain ⟨word, hword, rfl⟩ := h
  rw [List.getLast?_cons_of_ne_nil hword.1]
  exact hword.getLast?_ne

/-! ### What the schema accepts -/

private theorem isWordText_iff {word : List Char} : isWordText word = true ↔ IsWord word := by
  rw [isWordText, Bool.and_eq_true, Bool.not_eq_true', List.isEmpty_eq_false_iff,
    List.all_eq_true, IsWord]

/-- What is left without one line feed at the end is the text, or all of it but that. -/
private theorem dropFinalNewline_eq_iff {s word : List Char} (h : word.getLast? ≠ some '\n') :
    dropFinalNewline s = word ↔ s = word ∨ s = word ++ ['\n'] := by
  rw [dropFinalNewline]
  split
  · next hlast =>
    obtain ⟨front, rfl⟩ := List.getLast?_eq_some_iff.mp hlast
    rw [List.dropLast_concat, List.append_left_inj]
    refine ⟨.inr, fun hor => hor.resolve_left ?_⟩
    rintro rfl
    exact h hlast
  · next hlast =>
    refine ⟨.inl, fun hor => hor.resolve_right ?_⟩
    rintro rfl
    exact hlast List.getLast?_concat

/-- **What the schema accepts as an extension** is a dotted word, or one with a line feed behind
it. -/
theorem isExtension_iff_exists {s : String} :
    Schema.isExtension s = true ↔
      ∃ word, IsWord word ∧ (s.toList = '.' :: word ∨ s.toList = '.' :: (word ++ ['\n'])) := by
  unfold Schema.isExtension
  split
  · next rest hs =>
    rw [isWordText_iff, hs]
    constructor
    · intro hword
      refine ⟨_, hword, ((dropFinalNewline_eq_iff hword.getLast?_ne).mp rfl).imp ?_ ?_⟩
      · exact congrArg _
      · exact congrArg _
    · rintro ⟨word, hword, heq⟩
      have hrest := heq.imp (fun h => (List.cons_eq_cons.mp h).2)
        fun h => (List.cons_eq_cons.mp h).2
      rwa [(dropFinalNewline_eq_iff hword.getLast?_ne).mpr hrest]
  · next hno =>
    refine iff_of_false Bool.false_ne_true ?_
    rintro ⟨word, -, heq | heq⟩
    · exact hno _ heq
    · exact hno _ heq

/-! ### The pattern -/

/-- Behind the dot, as many word characters as there are have to reach the end of the text. -/
private theorem first?_extensionPattern (c : Char) (s : List Char) :
    extensionPattern.first? ('.' :: c :: s) =
      if isWord c = true ∧ (s.dropWhile isWord = [] ∨ s.dropWhile isWord = ['\n']) then
        some (c :: s.takeWhile isWord)
      else none := by
  rw [extensionPattern, first?_one_bind_cons, if_pos (decide_eq_true rfl), first?_one_bind_cons,
    first?_many_bind, first?_stop_bind, first?_pure, ite_and]
  intro t d rest hd
  rw [first?_stop_bind, if_neg]
  rintro (h | h)
  · exact List.cons_ne_nil d rest h
  · rw [(List.cons_eq_cons.mp h).1, isWord_newline] at hd
    exact Bool.false_ne_true hd

/-- The word that the pattern catches makes up the text, with a dot before it and perhaps a line
feed behind it. -/
theorem first?_extensionPattern_iff {s word : List Char} :
    extensionPattern.first? s = some word ↔
      IsWord word ∧ (s = '.' :: word ∨ s = '.' :: (word ++ ['\n'])) := by
  constructor
  · intro h
    obtain ⟨c, s, rfl, hc⟩ : ∃ c rest, s = '.' :: c :: rest ∧ isWord c = true := by
      rcases s with _ | ⟨dot, _ | ⟨c, s⟩⟩
      · cases h
      · rw [extensionPattern, first?_one_bind_cons] at h
        split at h <;> cases h
      · rw [extensionPattern, first?_one_bind_cons, first?_one_bind_cons] at h
        split at h
        · next hdot =>
          split at h
          · next hc => exact ⟨c, s, congrArg (· :: c :: s) (of_decide_eq_true hdot), hc⟩
          · cases h
        · cases h
    rw [first?_extensionPattern] at h
    split at h
    · next hmatch =>
      obtain rfl := Option.some.inj h
      have hsplit : c :: s.takeWhile isWord ++ s.dropWhile isWord = c :: s :=
        congrArg (c :: ·) List.takeWhile_append_dropWhile
      refine ⟨⟨List.cons_ne_nil _ _, List.forall_mem_cons.mpr ⟨hc, fun _ =>
        List.mem_takeWhile_imp⟩⟩, hmatch.2.imp (fun hend => ?_) fun hend => ?_⟩
      · rw [hend, List.append_nil] at hsplit
        rw [hsplit]
      · rw [hend] at hsplit
        rw [hsplit]
    · cases h
  · rintro ⟨⟨hne, hword⟩, hs⟩
    obtain ⟨c, more, rfl⟩ := List.exists_cons_of_ne_nil hne
    obtain ⟨hc, hmore⟩ := List.forall_mem_cons.mp hword
    have hnewline : ¬ isWord '\n' = true := Bool.eq_false_iff.mp isWord_newline
    rcases hs with rfl | rfl
    · rw [first?_extensionPattern, List.takeWhile_eq_self_iff.mpr hmore, if_pos]
      exact ⟨hc, .inl (List.dropWhile_eq_nil_iff.mpr hmore)⟩
    · rw [List.cons_append, first?_extensionPattern, List.takeWhile_append_of_pos hmore,
        List.takeWhile_cons_of_neg hnewline, List.append_nil, if_pos]
      refine ⟨hc, .inr ?_⟩
      rw [List.dropWhile_append_of_pos hmore, List.dropWhile_cons_of_neg hnewline]

/-- **The schema tries the pattern of extensions.** -/
theorem isExtension_eq_matches (s : String) :
    Schema.isExtension s = (extensionPattern.first? s.toList).isSome := by
  rw [Bool.eq_iff_iff, isExtension_iff_exists, Option.isSome_iff_exists]
  exact exists_congr fun word => first?_extensionPattern_iff.symm

end Rulebook.Settings
