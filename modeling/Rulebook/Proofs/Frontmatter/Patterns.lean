import Rulebook.Proofs.Frontmatter.Grammar
import Rulebook.Proofs.Text.Pattern

/-!
# The patterns of lines

The forms of a line are two patterns, one for a line with a key and one for an item. `Line.matched`
reads a line by matching it with them. `Line.classify` does not go through the ways to match: it
finds the key by its characters, and trims what stands behind the colon or the dash.

**Main fact.** `classify_eq_matched`: both read every text alike, also one that is more than a line.

A key never has to be made shorter, as no character of a key is a colon (`first?_keyPattern`). The
blanks behind a dash do have to be given back when there is nothing else. `first?_valuePattern` is
therefore an induction along these blanks. What stands behind them is either caught at the first
attempt, or holds a line feed, and then more blanks in front of it are no help.
-/

namespace Rulebook.Frontmatter

open Text Pattern

/-! ### The patterns -/

/-- What a line with a key catches: the key, and what follows the colon. -/
def keyPattern : Pattern (List Char × List Char) := do
  let start ← one isKeyStart
  let key ← many isKeyChar
  let _ ← one fun c => c = ':'
  let rest ← many fun c => c ≠ '\n'
  stop
  return (start :: key, rest)

/-- What stands between a dash and the end of its line, without the blanks around it. -/
def valuePattern : Pattern (List Char) := do
  let _ ← many isBlank
  let value ← few fun c => c ≠ '\n'
  let _ ← many isBlank
  stop
  return value

/-- What an item catches: its value. -/
def itemPattern : Pattern (List Char) := do
  let _ ← many isBlank
  let _ ← one fun c => c = '-'
  valuePattern

/-- The kind of a line with a key, told by what follows the colon. -/
def Line.ofKey (key rest : List Char) : Line :=
  match trim rest with
  | [] => .openList (String.ofList key)
  | value => .scalar (String.ofList key) (String.ofList (unquote value))

/-- The kind of a line, told by matching it. -/
def Line.matched (line : List Char) : Line :=
  match trim line with
  | [] => .ignored
  | '#' :: _ => .ignored
  | _ =>
    match keyPattern.first? line with
    | some (key, rest) => .ofKey key rest
    | none =>
      match itemPattern.first? line with
      | some value => .item (String.ofList (unquote value))
      | none => .unrecognized

/-! ### Lines with a key -/

/-- A text is one line when nothing but a last line feed stands behind its first line. -/
private theorem isOneLine_iff {s : List Char} :
    isOneLine s = true ↔
      s.dropWhile (fun c => c ≠ '\n') = [] ∨ s.dropWhile (fun c => c ≠ '\n') = ['\n'] := by
  induction s with
  | nil => exact iff_of_true rfl (.inl rfl)
  | cons c s ih =>
    by_cases hc : c = '\n'
    · rw [List.dropWhile_cons_of_neg (by simp [hc])]
      cases s <;> simp [isOneLine, hc]
    · rw [List.dropWhile_cons_of_pos (by simp [hc]), ← ih]
      cases s <;> simp [isOneLine, hc]

/-- What stands behind the first line of such a text is blank. -/
private theorem trim_takeWhile {s : List Char} (h : isOneLine s = true) :
    trim (s.takeWhile fun c => c ≠ '\n') = trim s := by
  have hblank : OnlyBlanks (s.dropWhile fun c => c ≠ '\n') := by
    rcases isOneLine_iff.mp h with hnil | hfeed
    · rw [hnil]
      exact onlyBlanks_nil
    · rw [hfeed]
      decide
  rw [← trim_append_of_blank_right _ hblank, List.takeWhile_append_dropWhile]

/-- The rest of a line is caught if nothing but a line feed follows it. -/
private theorem first?_rest_bind {α : Type} (f : List Char → α) (s : List Char) :
    (do let rest ← many fun c => c ≠ '\n'; stop; return f rest : Pattern α).first? s =
      if isOneLine s then some (f (s.takeWhile fun c => c ≠ '\n')) else none := by
  rw [first?_many_bind, first?_stop_bind, first?_pure]
  · simp only [isOneLine_iff]
  · intro rest c s hc
    rw [first?_stop_bind, if_neg]
    rintro (h | h)
    · exact List.cons_ne_nil c s h
    · exact of_decide_eq_true hc (List.cons_eq_cons.mp h).1

/-- The key that is caught is the one that the line is split at. -/
theorem first?_keyPattern (line : List Char) :
    keyPattern.first? line =
      (splitKey? line).bind fun way =>
        if isOneLine way.2 then some (way.1, way.2.takeWhile fun c => c ≠ '\n') else none := by
  cases hsplit : splitKey? line with
  | some way =>
    obtain ⟨key, rest⟩ := way
    obtain ⟨⟨start, more, rfl, hstart, hmore⟩, rfl⟩ := splitKey?_eq_some_iff.mp hsplit
    rw [keyPattern, List.cons_append, first?_one_bind_cons, if_pos hstart,
      first?_upTo_append isKeyChar_colon hmore, first?_rest_bind]
    rfl
  | none =>
    cases line with
    | nil => rfl
    | cons c s =>
      rw [keyPattern, first?_one_bind_cons]
      split
      · next hstart =>
        refine first?_upTo_of_ne isKeyChar_colon (fun more rest hmore h => ?_) _
        have hkey : IsKey (c :: more) := ⟨c, more, rfl, hstart, hmore⟩
        rw [splitKey?_eq_some_iff.mpr ⟨hkey, congrArg (c :: ·) h⟩] at hsplit
        exact Option.some_ne_none _ hsplit
      · rfl

/-! ### Items -/

/-- Blanks up to the end of a text are caught whichever way is tried. -/
private theorem first?_blanks_bind {α : Type} (a : α) (s : List Char) :
    (do let _ ← many isBlank; stop; return a : Pattern α).first? s =
      if OnlyBlanks s then some a else none := by
  induction s with
  | nil => rfl
  | cons c s ih =>
    have hstop : c :: s = ['\n'] → isBlank c = true ∧ OnlyBlanks s := by
      intro h
      obtain ⟨rfl, rfl⟩ := List.cons_eq_cons.mp h
      decide
    rw [first?_many_bind_cons, ih, first?_stop_bind, first?_pure]
    by_cases h : isBlank c = true ∧ OnlyBlanks s
    · simp [onlyBlanks_cons, h]
    · have hs : isBlank c = true → ¬ OnlyBlanks s := not_and.mp h
      simp +contextual [onlyBlanks_cons, h, mt hstop h, hs]

/-- A value is as long as it has to be for nothing but blanks to follow it. -/
private theorem first?_few_bind {α : Type} (f : List Char → α) (c : Char) (s : List Char) :
    (do let value ← few fun c => c ≠ '\n'; let _ ← many isBlank; stop; return f value :
      Pattern α).first? (c :: s) =
      if '\n' ∈ c :: trimEnd s then none else some (f (c :: trimEnd s)) := by
  induction s generalizing c f with
  | nil =>
    rw [first?_few_bind_cons, first?_blanks_bind, first?_few_bind_nil]
    by_cases hc : c = '\n'
    · simp [hc]
    · simp [hc, Ne.symm hc, onlyBlanks_nil, trimEnd]
  | cons d s ih =>
    rw [first?_few_bind_cons, first?_blanks_bind, ih fun t => f (c :: t)]
    by_cases hc : c = '\n'
    · simp [hc]
    by_cases hs : OnlyBlanks (d :: s)
    · simp [hc, Ne.symm hc, hs, trimEnd_eq_nil_iff.mpr hs]
    · simp [hc, Ne.symm hc, hs, trimEnd_cons_of_not_onlyBlanks hs]

/-- Behind a dash everything between the blanks is caught, or the last blank if there is nothing
else. -/
theorem first?_valuePattern (rest : List Char) :
    valuePattern.first? rest =
      if OnlyBlanks rest then (rest.filter fun c => c ≠ '\n').getLast?.map fun c => [c]
      else if '\n' ∈ trim rest then none else some (trim rest) := by
  induction rest with
  | nil => rfl
  | cons c s ih =>
    rw [valuePattern] at ih ⊢
    rw [first?_many_bind_cons, first?_few_bind, ih]
    by_cases hc : isBlank c = true
    · rw [if_pos hc]
      by_cases hs : OnlyBlanks s
      · rw [if_pos hs, if_pos (onlyBlanks_cons.mpr ⟨hc, hs⟩), trimEnd_eq_nil_iff.mpr hs]
        by_cases hfeed : c = '\n'
        · simp [hfeed]
        · rw [List.filter_cons_of_pos (by simp [hfeed]), List.getLast?_cons]
          cases (s.filter fun c => c ≠ '\n').getLast? <;> simp [Ne.symm hfeed]
      · have htrim : trim (c :: s) = trim s :=
          trim_append_of_blank (List.forall_mem_singleton.mpr hc) s
        rw [if_neg hs, if_neg (fun h => hs (onlyBlanks_cons.mp h).2), htrim]
        by_cases hfeed : '\n' ∈ trim s
        · rw [if_pos hfeed, if_pos (List.mem_cons_of_mem c (mem_trimEnd_of_mem_trim hfeed))]
          rfl
        · rw [if_neg hfeed]
          rfl
    · have htrim : trim (c :: s) = c :: trimEnd s :=
        trim_append_cons onlyBlanks_nil (Bool.eq_false_iff.mpr hc) s
      rw [if_neg hc, if_neg (fun h => hc (onlyBlanks_cons.mp h).1), htrim]

/-- The value of an item is what is caught behind its dash. -/
private theorem map_unquote_valuePattern (rest : List Char) :
    (valuePattern.first? rest).map unquote = itemValue? rest := by
  rw [first?_valuePattern, itemValue?]
  split
  · next hblank =>
    rw [trim_eq_nil_iff.mpr hblank, Option.map_map]
    -- a single character stands in no quotes
    exact Option.map_congr fun c _ => by simp [unquote]
  · next hblank =>
    cases htrim : trim rest with
    | nil => exact absurd (trim_eq_nil_iff.mp htrim) hblank
    | cons c s =>
      have hfree : (c :: s).all (fun d => d ≠ '\n') = true ↔ '\n' ∉ c :: s := by
        rw [List.all_eq_true, ← List.forall_mem_ne']
        exact forall₂_congr fun d _ => decide_eq_true_iff
      dsimp only
      rw [apply_ite (Option.map unquote), ← ite_not]
      exact if_congr hfree.symm rfl rfl

/-- An item is matched behind its dash. -/
private theorem first?_itemPattern (line : List Char) :
    itemPattern.first? line = (afterDash? line).bind valuePattern.first? := by
  cases hafter : afterDash? line with
  | some rest =>
    obtain ⟨before, hbefore, rfl⟩ := afterDash?_eq_some_iff.mp hafter
    exact first?_upTo_append isBlank_hyphen hbefore _ rest
  | none =>
    refine first?_upTo_of_ne isBlank_hyphen (fun before rest hbefore h => ?_) _
    rw [afterDash?_eq_some_iff.mpr ⟨before, hbefore, h⟩] at hafter
    exact Option.some_ne_none _ hafter

/-- An item is what its pattern catches. -/
private theorem classifyItem_eq_matched (line : List Char) :
    Line.classifyItem line =
      match itemPattern.first? line with
      | some value => .item (String.ofList (unquote value))
      | none => .unrecognized := by
  have hvalue : (afterDash? line).bind itemValue? = (itemPattern.first? line).map unquote := by
    rw [first?_itemPattern]
    cases afterDash? line with
    | none => rfl
    | some rest => exact (map_unquote_valuePattern rest).symm
  rw [Line.classifyItem, hvalue]
  cases itemPattern.first? line <;> rfl

/-- **Lines are read by their patterns**, and so is any other text. -/
theorem classify_eq_matched (line : List Char) : Line.classify line = Line.matched line := by
  rw [Line.matched]
  split
  · next h => rw [Line.classify, h]
  · next h =>
    rw [Line.classify, h]
    rfl
  · next hnil hhash =>
    rw [Line.classify, first?_keyPattern, ← classifyItem_eq_matched]
    split
    · next h => exact absurd h hnil
    · next rest h => exact absurd h (hhash rest)
    · cases splitKey? line with
      | none => rfl
      | some way =>
        obtain ⟨key, rest⟩ := way
        rw [Option.bind_some]
        dsimp only
        by_cases hline : isOneLine rest = true
        · have hkey : Line.ofKey key (rest.takeWhile fun c => c ≠ '\n') = Line.ofKey key rest := by
            rw [Line.ofKey, Line.ofKey, trim_takeWhile hline]
          rw [if_pos hline, if_pos hline]
          exact hkey.symm
        · rw [if_neg hline, if_neg hline]

/-- The last of the blanks behind a dash is given back to be the value. -/
example : Line.matched [' ', '-', '\u00a0', '\u3000'] = .item "\u3000" := by rfl

end Rulebook.Frontmatter
