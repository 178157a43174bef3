import Rulebook.Proofs.Frontmatter.Delimited
import Rulebook.Proofs.Frontmatter.Grammar
import Rulebook.Proofs.Frontmatter.KeyLines

/-!
# Blanks at the ends of lines

Blanks at the end of a line say nothing, with one exception. Behind the dash of an item that has no
value, the last of them stands for the value, while a bare dash is no item at all. So trimming the
lines of a block takes away the items of its **dangling dashes**, and nothing else.

**Main facts.** `classify_trimEnd`: a line that is no dangling dash says the same without the blanks
at its end. `parse_trimLines_iff`: the lines of a block can be trimmed just when no dangling dash in
it is gathered into a list.
-/

namespace Rulebook.Frontmatter

open Text

/-! ### Dangling dashes -/

/-- A **dangling dash** is a dash with nothing but blanks around it, and at least one behind it. -/
def IsDanglingDash (line : List Char) : Prop :=
  ∃ before after, line = before ++ '-' :: after ∧ OnlyBlanks before ∧ OnlyBlanks after ∧ after ≠ []

theorem trimEnd_dash {before after : List Char} (hafter : OnlyBlanks after) :
    trimEnd (before ++ '-' :: after) = before ++ ['-'] := by
  have hdash : ¬ OnlyBlanks ('-' :: after) := fun h =>
    absurd (h '-' List.mem_cons_self) (by decide)
  rw [trimEnd_append hdash, trimEnd_cons isBlank_hyphen, trimEnd_eq_nil_iff.mpr hafter]

/-- A dangling dash is an item, and the last blank behind the dash is its value. -/
theorem classify_danglingDash {line : List Char} (h : IsDanglingDash line) (hline : '\n' ∉ line) :
    ∃ c, line.getLast? = some c ∧ isBlank c = true ∧
      Line.classify line = .item (String.ofList [c]) := by
  obtain ⟨before, after, rfl, hbefore, hafter, hne⟩ := h
  have hnewline : '\n' ∉ after := fun hmem =>
    hline (List.mem_append_right _ (List.mem_cons_of_mem _ hmem))
  obtain ⟨c, hc⟩ : ∃ c, after.getLast? = some c := ⟨_, List.getLast?_eq_some_getLast hne⟩
  refine ⟨c, ?_, hafter c (List.mem_of_getLast? hc), ?_⟩
  · rw [List.getLast?_append_of_ne_nil _ (List.cons_ne_nil _ _), List.getLast?_cons, hc]
    rfl
  · rw [classify_dash hbefore, itemValue?_of_onlyBlanks hafter hnewline, hc]
    rfl

/-- Without the blanks behind it, a dangling dash is not understood. -/
theorem classify_trimEnd_danglingDash {line : List Char} (h : IsDanglingDash line) :
    Line.classify (trimEnd line) = .unrecognized := by
  obtain ⟨before, after, rfl, hbefore, hafter, -⟩ := h
  rw [trimEnd_dash hafter, classify_dash hbefore]
  rfl

/-! ### One line -/

theorem notMem_trimEnd {line : List Char} (h : '\n' ∉ line) : '\n' ∉ trimEnd line :=
  fun hmem => h ((List.rdropWhile_prefix _ _).subset hmem)

/-- A line is split at its key in the same way without the blanks at its end. -/
private theorem splitKey?_trimEnd (line : List Char) :
    splitKey? (trimEnd line) = (splitKey? line).map fun split => (split.1, trimEnd split.2) := by
  cases hsplit : splitKey? line with
  | some split =>
    obtain ⟨key, rest⟩ := split
    obtain ⟨hkey, rfl⟩ := splitKey?_eq_some_iff.mp hsplit
    refine splitKey?_eq_some_iff.mpr ⟨hkey, ?_⟩
    have hcolon : ¬ OnlyBlanks (':' :: rest) := fun h =>
      absurd (h ':' List.mem_cons_self) (by decide)
    rw [trimEnd_append hcolon, trimEnd_cons isBlank_colon]
  | none =>
    rw [Option.map_none, Option.eq_none_iff_forall_ne_some]
    rintro ⟨key, rest⟩ h
    obtain ⟨hkey, htrim⟩ := splitKey?_eq_some_iff.mp h
    -- with the blanks put back, the line would have a key too
    obtain ⟨blanks, -, hline⟩ := exists_blanks_behind line
    have hfull : line = key ++ ':' :: (rest ++ blanks) := by
      rw [hline, htrim, List.append_assoc, List.cons_append]
    rw [splitKey?_eq_some_iff.mpr ⟨hkey, hfull⟩] at hsplit
    exact absurd hsplit (Option.some_ne_none _)

private theorem afterDash?_trimEnd (line : List Char) :
    afterDash? (trimEnd line) = (afterDash? line).map trimEnd := by
  rw [afterDash?, afterDash?, trimStart_trimEnd]
  cases hline : trimStart line with
  | nil => rfl
  | cons c rest =>
    have hblank : isBlank c = false := isBlank_head?_trimStart line c (by rw [hline]; rfl)
    rw [trimEnd_cons hblank]
    by_cases hc : c = '-'
    · subst hc
      rfl
    · split
      · next h => exact absurd (List.cons_eq_cons.mp h).1 hc
      · split
        · next h => exact absurd (List.cons_eq_cons.mp h).1 hc
        · rfl

private theorem itemValue?_trimEnd {rest : List Char} (h : OnlyBlanks rest → rest = [])
    (hline : '\n' ∉ rest) : itemValue? (trimEnd rest) = itemValue? rest := by
  by_cases hrest : OnlyBlanks rest
  · rw [h hrest]
    rfl
  · have htrim : ¬ OnlyBlanks (trimEnd rest) := by
      rw [← trim_eq_nil_iff, trim_trimEnd]
      exact mt trim_eq_nil_iff.mp hrest
    rw [itemValue?_of_value htrim (notMem_trimEnd hline), itemValue?_of_value hrest hline,
      trim_trimEnd]

/-- **A line that is no dangling dash** says the same without the blanks at its end. -/
theorem classify_trimEnd {line : List Char} (h : ¬ IsDanglingDash line) (hline : '\n' ∉ line) :
    Line.classify (trimEnd line) = Line.classify line := by
  by_cases hsilent : IsSilent line
  · have htrim : IsSilent (trimEnd line) := by rwa [IsSilent, trim_trimEnd]
    rw [classify_of_silent hsilent, classify_of_silent htrim]
  have htrim : ¬ IsSilent (trimEnd line) := by rwa [IsSilent, trim_trimEnd]
  -- a key has no part in the blanks, and of what follows a dash only blanks are lost
  have hitem : Line.classifyItem (trimEnd line) = Line.classifyItem line := by
    rw [Line.classifyItem, Line.classifyItem, afterDash?_trimEnd]
    cases hafter : afterDash? line with
    | none => rfl
    | some rest =>
      obtain ⟨before, hbefore, rfl⟩ := afterDash?_eq_some_iff.mp hafter
      have hrest : OnlyBlanks rest → rest = [] := by
        intro hblank
        by_contra hne
        exact h ⟨before, rest, rfl, hbefore, hblank, hne⟩
      have hnewline : '\n' ∉ rest := fun hmem =>
        hline (List.mem_append_right _ (List.mem_cons_of_mem _ hmem))
      rw [Option.map_some, Option.bind_some, Option.bind_some, itemValue?_trimEnd hrest hnewline]
  rw [classify_of_not_silent hsilent, classify_of_not_silent htrim, splitKey?_trimEnd, hitem]
  cases hsplit : splitKey? line with
  | none => rfl
  | some split =>
    obtain ⟨key, rest⟩ := split
    obtain ⟨-, rfl⟩ := splitKey?_eq_some_iff.mp hsplit
    have hnewline : '\n' ∉ rest := fun hmem =>
      hline (List.mem_append_right _ (List.mem_cons_of_mem _ hmem))
    dsimp only [Option.map_some]
    rw [isOneLine_of_notMem hnewline, isOneLine_of_notMem (notMem_trimEnd hnewline), trim_trimEnd]

/-- The kind of a line without the blanks at its end. -/
def classifyTrimmed (line : List Char) : Line :=
  Line.classify (trimEnd line)

/-- A key line says the same without the blanks at its end. -/
private theorem classifyTrimmed_of_key? {line : List Char} (hline : '\n' ∉ line) {key : String}
    (h : (Line.classify line).key? = some key) : classifyTrimmed line = Line.classify line := by
  refine classify_trimEnd (fun hdash => ?_) hline
  obtain ⟨c, -, -, hitem⟩ := classify_danglingDash hdash hline
  rw [hitem] at h
  exact Option.some_ne_none key h.symm

private theorem key?_classifyTrimmed {line : List Char} (hline : '\n' ∉ line) :
    (classifyTrimmed line).key? = (Line.classify line).key? := by
  by_cases hdash : IsDanglingDash line
  · obtain ⟨c, -, -, hitem⟩ := classify_danglingDash hdash hline
    rw [classifyTrimmed, classify_trimEnd_danglingDash hdash, hitem]
    rfl
  · rw [classifyTrimmed, classify_trimEnd hdash hline]

/-! ### The items of a list -/

section Items

variable {ls : List (List Char)}

/-- Trimming never adds an item. -/
private theorem length_itemsUpToList_le (hls : ∀ l ∈ ls, '\n' ∉ l) :
    (itemsUpToList (ls.map classifyTrimmed)).length ≤
      (itemsUpToList (ls.map Line.classify)).length := by
  induction ls with
  | nil => exact Nat.le_refl _
  | cons l ls ih =>
    obtain ⟨hl, hls⟩ := List.forall_mem_cons.mp hls
    have hle := ih hls
    rw [List.map_cons, List.map_cons]
    by_cases hdash : IsDanglingDash l
    · obtain ⟨c, -, -, hitem⟩ := classify_danglingDash hdash hl
      rw [classifyTrimmed, classify_trimEnd_danglingDash hdash, hitem, itemsUpToList_cons rfl,
        itemsUpToList_cons rfl]
      simp only [Line.item?, Option.toList_none, Option.toList_some, List.map_nil, List.map_cons,
        List.nil_append, List.cons_append, List.length_cons]
      omega
    · rw [classifyTrimmed, classify_trimEnd hdash hl]
      cases hopen : (Line.classify l).opensList with
      | true => simp [itemsUpToList, hopen]
      | false =>
        rw [itemsUpToList_cons hopen, itemsUpToList_cons hopen, List.length_append,
          List.length_append]
        omega

/-- Trimming keeps the items of a list just when no dangling dash stands among them. -/
private theorem itemsUpToList_classifyTrimmed_iff (hls : ∀ l ∈ ls, '\n' ∉ l) :
    itemsUpToList (ls.map classifyTrimmed) = itemsUpToList (ls.map Line.classify) ↔
      ∀ middle line after, ls = middle ++ line :: after → IsDanglingDash line →
        ¬ ∀ l ∈ middle.map Line.classify, l.opensList = false := by
  induction ls with
  | nil =>
    refine iff_of_true rfl fun middle line after h => ?_
    exact absurd h.symm (List.append_ne_nil_of_right_ne_nil _ (List.cons_ne_nil _ _))
  | cons l ls ih =>
    obtain ⟨hl, hls⟩ := List.forall_mem_cons.mp hls
    rw [List.map_cons, List.map_cons]
    by_cases hdash : IsDanglingDash l
    · -- this line is an item that the trimmed one is not
      obtain ⟨c, -, -, hitem⟩ := classify_danglingDash hdash hl
      refine iff_of_false (fun heq => ?_) fun h => h [] l ls rfl hdash (List.forall_mem_nil _)
      have hlength := congrArg List.length heq
      have hle := length_itemsUpToList_le hls
      rw [classifyTrimmed, classify_trimEnd_danglingDash hdash, hitem, itemsUpToList_cons rfl,
        itemsUpToList_cons rfl] at hlength
      simp only [Line.item?, Option.toList_none, Option.toList_some, List.map_nil, List.map_cons,
        List.nil_append, List.cons_append, List.length_cons] at hlength
      omega
    · rw [classifyTrimmed, classify_trimEnd hdash hl]
      cases hopen : (Line.classify l).opensList with
      | true =>
        -- the list ends here, before any line that follows
        refine iff_of_true (by simp [itemsUpToList, hopen]) fun middle line after h hd hall => ?_
        cases middle with
        | nil => exact hdash ((List.cons_eq_cons.mp h).1 ▸ hd)
        | cons m middle =>
          obtain ⟨rfl, -⟩ := List.cons_eq_cons.mp h
          rw [hall _ List.mem_cons_self] at hopen
          exact Bool.false_ne_true hopen
      | false =>
        rw [itemsUpToList_cons hopen, itemsUpToList_cons hopen, List.append_cancel_left_eq, ih hls]
        constructor
        · intro h middle line after heq hd hall
          cases middle with
          | nil => exact hdash ((List.cons_eq_cons.mp heq).1 ▸ hd)
          | cons m middle =>
            obtain ⟨-, heq⟩ := List.cons_eq_cons.mp heq
            exact h middle line after heq hd fun x hx => hall x (List.mem_cons_of_mem _ hx)
        · intro h middle line after heq hd hall
          refine h (l :: middle) line after (congrArg (l :: ·) heq) hd ?_
          exact List.forall_mem_cons.mpr ⟨hopen, hall⟩

end Items

/-! ### Blocks -/

/-- A block without the blanks at the ends of its lines. -/
def trimLines (block : String) : String :=
  String.ofList (unlines ((lines block.toList).map trimEnd))

/-- No dangling dash among some lines is gathered into a list that the metadata keeps. -/
def NoGatheredDash (ls : List (List Char)) : Prop :=
  ∀ before line after, ls = before ++ line :: after → IsDanglingDash line →
    ¬ Gathered (before.map Line.classify) (after.map Line.classify)

/-- The metadata that some lines state. -/
private def stated (ls : List Line) : Metadata :=
  (ls.foldl Reading.step {}).metadata

private theorem parse_eq_stated (block : String) :
    Metadata.parse block = stated ((lines block.toList).map Line.classify) := rfl

private theorem parse_trimLines_eq_stated (block : String) :
    Metadata.parse (trimLines block) = stated ((lines block.toList).map classifyTrimmed) := by
  rw [trimLines, parse_ofList_unlines, List.map_map]
  · rfl
  · intro l hl
    obtain ⟨line, hline, rfl⟩ := List.mem_map.mp hl
    exact notMem_trimEnd (newline_notMem_of_mem_lines hline)

/-- The same lines are key lines of a key after trimming. -/
private theorem noKeyLine_classifyTrimmed_iff {ls : List (List Char)} (hls : ∀ l ∈ ls, '\n' ∉ l)
    (key : String) :
    NoKeyLine key (ls.map classifyTrimmed) ↔ NoKeyLine key (ls.map Line.classify) := by
  simp only [NoKeyLine, List.forall_mem_map]
  exact forall₂_congr fun l hl => by rw [key?_classifyTrimmed (hls l hl)]

/-- The value of a key whose last key line is `line`, before and after trimming. -/
private theorem get?_stated_of_last {before after : List (List Char)} {line : List Char}
    (hls : ∀ l ∈ before ++ line :: after, '\n' ∉ l) {key : String}
    (hkey : (Line.classify line).key? = some key) (h : NoKeyLine key (after.map Line.classify)) :
    (stated ((before ++ line :: after).map Line.classify)).get? key =
        (Line.classify line).value? (after.map Line.classify) ∧
      (stated ((before ++ line :: after).map classifyTrimmed)).get? key =
        (Line.classify line).value? (after.map classifyTrimmed) := by
  obtain ⟨-, hrest⟩ := List.forall_mem_append.mp hls
  obtain ⟨hline, hafter⟩ := List.forall_mem_cons.mp hrest
  have hsame : classifyTrimmed line = Line.classify line := classifyTrimmed_of_key? hline hkey
  constructor
  · rw [List.map_append, List.map_cons]
    exact Reading.get?_foldl_of_last hkey h
  · rw [List.map_append, List.map_cons, hsame]
    exact Reading.get?_foldl_of_last hkey ((noKeyLine_classifyTrimmed_iff hafter key).mpr h)

/-- The list that gathers a dangling dash loses an item when the lines are trimmed. -/
private theorem stated_classifyTrimmed_ne {before after : List (List Char)} {line : List Char}
    (hls : ∀ l ∈ before ++ line :: after, '\n' ∉ l) (hdash : IsDanglingDash line)
    (hgathered : Gathered (before.map Line.classify) (after.map Line.classify)) :
    stated ((before ++ line :: after).map classifyTrimmed) ≠
      stated ((before ++ line :: after).map Line.classify) := by
  intro heq
  obtain ⟨start, key, middle, hbefore, hmiddle, hkey⟩ := hgathered
  obtain ⟨rawStart, rest, rfl, rfl, hrest⟩ := List.map_eq_append_iff.mp hbefore
  obtain ⟨opening, rawMiddle, rfl, hopening, rfl⟩ := List.map_eq_cons_iff.mp hrest
  have hsplit : rawStart ++ opening :: rawMiddle ++ line :: after =
      rawStart ++ opening :: (rawMiddle ++ line :: after) := by
    rw [List.append_assoc, List.cons_append]
  rw [hsplit] at heq hls
  have hafter : ∀ l ∈ rawMiddle ++ line :: after, '\n' ∉ l := fun l hl =>
    hls l (List.mem_append_right _ (List.mem_cons_of_mem _ hl))
  have hline : '\n' ∉ line := hafter line (List.mem_append_right _ List.mem_cons_self)
  obtain ⟨c, -, -, hitem⟩ := classify_danglingDash hdash hline
  have hnone : NoKeyLine key ((rawMiddle ++ line :: after).map Line.classify) := by
    obtain ⟨hm, ha⟩ := List.forall_mem_append.mp hkey
    rw [List.map_append, List.map_cons, hitem]
    refine List.forall_mem_append.mpr ⟨hm, List.forall_mem_cons.mpr ⟨?_, ha⟩⟩
    exact Option.some_ne_none key ∘ Eq.symm
  have hkeyLine : (Line.classify opening).key? = some key := by
    rw [hopening]
    rfl
  obtain ⟨hfull, htrimmed⟩ := get?_stated_of_last hls hkeyLine hnone
  rw [heq, hfull, hopening] at htrimmed
  have hitems := Value.list.inj (Option.some.inj htrimmed)
  exact (itemsUpToList_classifyTrimmed_iff hafter).mp hitems.symm rawMiddle line after rfl hdash
    hmiddle

/-- Where no dangling dash is gathered, the lines state the same after trimming. -/
private theorem stated_classifyTrimmed {ls : List (List Char)} (hls : ∀ l ∈ ls, '\n' ∉ l)
    (h : NoGatheredDash ls) :
    stated (ls.map classifyTrimmed) = stated (ls.map Line.classify) := by
  refine Metadata.ext_of_get? (Reading.nodup_keys_foldl _) ?_ fun key => ?_
  · rw [stated, stated, Reading.keys_foldl, Reading.keys_foldl, List.filterMap_map,
      List.filterMap_map]
    exact congrArg List.eraseDups
      (List.filterMap_congr fun l hl => key?_classifyTrimmed (hls l hl))
  by_cases hkey : NoKeyLine key (ls.map Line.classify)
  · rw [stated, stated, Reading.get?_foldl_of_noKeyLine hkey,
      Reading.get?_foldl_of_noKeyLine ((noKeyLine_classifyTrimmed_iff hls key).mpr hkey)]
  · -- the value is told by the last key line and, if it opens a list, by the items behind it
    obtain ⟨before, l, after, hmap, hl, hafter⟩ := exists_last_keyLine hkey
    obtain ⟨rawBefore, rest, rfl, rfl, hrest⟩ := List.map_eq_append_iff.mp hmap
    obtain ⟨line, rawAfter, rfl, rfl, rfl⟩ := List.map_eq_cons_iff.mp hrest
    obtain ⟨hfull, htrimmed⟩ := get?_stated_of_last hls hl hafter
    rw [hfull, htrimmed]
    cases hclass : Line.classify line with
    | openList other =>
      obtain rfl : other = key := by
        rw [hclass] at hl
        exact Option.some.inj hl
      have hraw : ∀ l ∈ rawAfter, '\n' ∉ l := fun l hl =>
        hls l (List.mem_append_right _ (List.mem_cons_of_mem _ hl))
      refine congrArg (some ∘ Value.list) ((itemsUpToList_classifyTrimmed_iff hraw).mpr ?_)
      rintro middle dash rest rfl hdash hmiddle
      refine h (rawBefore ++ line :: middle) dash rest (by simp) hdash ?_
      refine ⟨rawBefore.map Line.classify, other, middle.map Line.classify, ?_, hmiddle, ?_⟩
      · rw [List.map_append, List.map_cons, hclass]
      · rw [List.map_append, List.map_cons] at hafter
        obtain ⟨hm, hr⟩ := List.forall_mem_append.mp hafter
        exact List.forall_mem_append.mpr ⟨hm, (List.forall_mem_cons.mp hr).2⟩
    | _ => rfl

/-- **Trimming a block** keeps its metadata just when no dangling dash in it is gathered. -/
theorem parse_trimLines_iff (block : String) :
    Metadata.parse (trimLines block) = Metadata.parse block ↔
      NoGatheredDash (lines block.toList) := by
  have hls : ∀ l ∈ lines block.toList, '\n' ∉ l := fun _ => newline_notMem_of_mem_lines
  rw [parse_trimLines_eq_stated, parse_eq_stated]
  refine ⟨fun heq before line after hsplit hdash hgathered => ?_, stated_classifyTrimmed hls⟩
  rw [hsplit] at heq hls
  exact stated_classifyTrimmed_ne hls hdash hgathered heq

end Rulebook.Frontmatter
