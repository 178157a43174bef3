/-!
# Lines

A text is cut at its line feeds: `lines` never returns the empty list, and `unlines` undoes it.
`unifyNewlines` is what reading a file does first: a carriage return, alone or before a line
feed, becomes one line feed.

**Main facts.** `unlines_lines` and `lines_unlines` say that cutting and joining are inverse to
each other on lists of lines that hold no line feed.
-/

namespace Rulebook.Text

/-- Cuts a text at each line feed. The empty text is one empty line. -/
def lines : List Char → List (List Char)
  | [] => [[]]
  | c :: s =>
    if c = '\n' then [] :: lines s
    else
      match lines s with
      | [] => [[c]]
      | l :: ls => (c :: l) :: ls

/-- Joins lines by single line feeds. -/
def unlines : List (List Char) → List Char
  | [] => []
  | [l] => l
  | l :: ls => l ++ '\n' :: unlines ls

/-- Replaces each carriage return, with the line feed that may follow it, by one line feed. -/
def unifyNewlines : List Char → List Char
  | [] => []
  | c :: s =>
    if c = '\r' then
      match s with
      | '\n' :: t => '\n' :: unifyNewlines t
      | t => '\n' :: unifyNewlines t
    else c :: unifyNewlines s

/-! ### Cutting and joining -/

theorem lines_ne_nil (s : List Char) : lines s ≠ [] := by
  cases s with
  | nil => simp [lines]
  | cons c s =>
    unfold lines
    split
    · simp
    · split <;> simp

/-- Joining the lines of a text gives the text back. -/
theorem unlines_lines (s : List Char) : unlines (lines s) = s := by
  induction s with
  | nil => rfl
  | cons c s ih =>
    unfold lines
    split
    · next hc =>
      subst hc
      match h : lines s with
      | [] => exact absurd h (lines_ne_nil s)
      | l :: ls => rw [← ih, h]; rfl
    · match h : lines s with
      | [] => exact absurd h (lines_ne_nil s)
      | [l] => rw [← ih, h]; rfl
      | l :: l' :: ls => rw [← ih, h]; rfl

/-- A line feed stands between a line and the lines behind it. -/
theorem unlines_cons (l : List Char) {ls : List (List Char)} (h : ls ≠ []) :
    unlines (l :: ls) = l ++ '\n' :: unlines ls := by
  cases ls with
  | nil => exact absurd rfl h
  | cons l' ls => rfl

/-- A line feed stands between lines and the lines behind them. -/
theorem unlines_append {ls ms : List (List Char)} (hls : ls ≠ []) (hms : ms ≠ []) :
    unlines (ls ++ ms) = unlines ls ++ '\n' :: unlines ms := by
  induction ls with
  | nil => exact absurd rfl hls
  | cons l ls ih =>
    rw [List.cons_append]
    by_cases h : ls = []
    · subst h
      exact unlines_cons l hms
    · rw [unlines_cons l (List.append_ne_nil_of_left_ne_nil h ms), ih h, unlines_cons l h,
        List.append_assoc, List.cons_append]

/-- Lines that end with line feeds are their join with one more line feed. -/
theorem flatMap_append_newline {ls : List (List Char)} (h : ls ≠ []) :
    (ls.flatMap fun l => l ++ ['\n']) = unlines ls ++ ['\n'] := by
  induction ls with
  | nil => exact absurd rfl h
  | cons l ls ih =>
    by_cases hls : ls = []
    · subst hls
      exact List.append_nil _
    · rw [List.flatMap_cons, ih hls, unlines_cons l hls, List.append_assoc, List.append_assoc]
      rfl

/-- A line feed ends the first line, whatever follows. -/
theorem lines_append_newline {l : List Char} (h : '\n' ∉ l) (s : List Char) :
    lines (l ++ '\n' :: s) = l :: lines s := by
  induction l with
  | nil => simp [lines]
  | cons c l ih =>
    obtain ⟨hc, hl⟩ : '\n' ≠ c ∧ '\n' ∉ l := by simpa using h
    rw [List.cons_append, lines, if_neg (Ne.symm hc), ih hl]

/-- A text without a line feed is its own only line. -/
theorem lines_of_notMem {l : List Char} (h : '\n' ∉ l) : lines l = [l] := by
  induction l with
  | nil => rfl
  | cons c l ih =>
    obtain ⟨hc, hl⟩ : '\n' ≠ c ∧ '\n' ∉ l := by simpa using h
    rw [lines, if_neg (Ne.symm hc), ih hl]

/-- Lines without line feeds are found again in their join. -/
theorem lines_unlines {ls : List (List Char)} (hne : ls ≠ []) (h : ∀ l ∈ ls, '\n' ∉ l) :
    lines (unlines ls) = ls := by
  induction ls with
  | nil => exact absurd rfl hne
  | cons l ls ih =>
    match ls, ih, h with
    | [], _, h => exact lines_of_notMem (h l (by simp))
    | l' :: ls, ih, h =>
      rw [unlines, lines_append_newline (h l (by simp)),
        ih (by simp) fun x hx => h x (List.mem_cons_of_mem _ hx)]
      · simp

/-- No line of a text holds a line feed. -/
theorem newline_notMem_of_mem_lines {s l : List Char} (h : l ∈ lines s) : '\n' ∉ l := by
  induction s generalizing l with
  | nil => simp_all [lines]
  | cons c s ih =>
    unfold lines at h
    split at h
    · rcases List.mem_cons.mp h with rfl | h
      · simp
      · exact ih h
    · next hc =>
      split at h
      · next hs => exact absurd hs (lines_ne_nil s)
      · next l' ls hs =>
        rcases List.mem_cons.mp h with rfl | h
        · have := ih (hs ▸ List.mem_cons_self : l' ∈ lines s)
          simp_all [eq_comm]
        · exact ih (hs ▸ List.mem_cons_of_mem _ h)

/-- Lines without line feeds are found again in their join, ahead of what follows a line feed. -/
theorem lines_unlines_append_newline {ls : List (List Char)} (hne : ls ≠ [])
    (h : ∀ l ∈ ls, '\n' ∉ l) (s : List Char) :
    lines (unlines ls ++ '\n' :: s) = ls ++ lines s := by
  have hjoin : unlines ls ++ '\n' :: s = unlines (ls ++ lines s) := by
    rw [unlines_append hne (lines_ne_nil s), unlines_lines]
  rw [hjoin]
  refine lines_unlines (List.append_ne_nil_of_left_ne_nil hne _) fun l hl => ?_
  rcases List.mem_append.mp hl with hl | hl
  · exact h l hl
  · exact newline_notMem_of_mem_lines hl

/-- A text starts with given lines when it is their join, and then nothing or a line feed and
something more. -/
theorem exists_lines_eq_append_iff {ls : List (List Char)} (hne : ls ≠ [])
    (h : ∀ l ∈ ls, '\n' ∉ l) {s : List Char} :
    (∃ rest, lines s = ls ++ rest) ↔
      s = unlines ls ∨ ∃ more, s = unlines ls ++ '\n' :: more := by
  constructor
  · rintro ⟨rest, hs⟩
    rw [← unlines_lines s, hs]
    by_cases hrest : rest = []
    · rw [hrest, List.append_nil]
      exact .inl rfl
    · exact .inr ⟨unlines rest, unlines_append hne hrest⟩
  · rintro (rfl | ⟨more, rfl⟩)
    · exact ⟨[], by rw [lines_unlines hne h, List.append_nil]⟩
    · exact ⟨lines more, lines_unlines_append_newline hne h more⟩

/-- The characters of a line are characters of the text. -/
theorem mem_of_mem_lines {s l : List Char} (h : l ∈ lines s) {c : Char} (hc : c ∈ l) : c ∈ s := by
  induction s generalizing l with
  | nil => simp_all [lines]
  | cons d s ih =>
    unfold lines at h
    split at h
    · rcases List.mem_cons.mp h with rfl | h
      · simp at hc
      · exact List.mem_cons_of_mem _ (ih h hc)
    · split at h
      · next hs => exact absurd hs (lines_ne_nil s)
      · next l' ls hs =>
        rcases List.mem_cons.mp h with rfl | h
        · rcases List.mem_cons.mp hc with rfl | hc
          · exact List.mem_cons_self
          · exact List.mem_cons_of_mem _ (ih (hs ▸ List.mem_cons_self) hc)
        · exact List.mem_cons_of_mem _ (ih (hs ▸ List.mem_cons_of_mem _ h) hc)

end Rulebook.Text
