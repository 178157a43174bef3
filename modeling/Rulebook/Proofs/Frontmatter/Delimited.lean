import Rulebook.Frontmatter.Block
import Rulebook.Frontmatter.Metadata
import Rulebook.Proofs.Text.Trim

/-!
# Delimited texts

A text has a block when its lines are an opening delimiter, the lines of the block, a closing
delimiter and any rest. This module goes from the lines to the block, and from the lines of a block
to its metadata, so that later proofs deal with lists of lines only.

**Main facts.** `linesBefore?_eq_some_iff` and `block?_eq_some_iff`: where the block is found.
`block?_append`: what follows a text with a block does not change the block.
`parse_ofList_unlines`: the metadata of a block that is put together from lines.
-/

namespace Rulebook.Frontmatter

open Text

/-! ### Carriage returns at the end of a line -/

/-- A line that does not end with a carriage return has none to lose. -/
theorem chomp_of_getLast?_ne {line : List Char} (h : line.getLast? ≠ some '\r') :
    chomp line = line := by
  refine List.rdropWhile_eq_self_iff.mpr fun hne hreturn => h ?_
  rw [List.getLast?_eq_some_getLast hne, beq_iff_eq.mp hreturn]

/-- A line that does not end with a blank has no carriage return to lose. -/
theorem chomp_eq_self {line : List Char} (h : ∀ c ∈ line.getLast?, isBlank c = false) :
    chomp line = line := by
  refine chomp_of_getLast?_ne fun hlast => ?_
  have hblank := h '\r' hlast
  rw [isBlank_return] at hblank
  exact Bool.false_ne_true hblank.symm

/-- No carriage return is left at the end. -/
theorem getLast?_chomp_ne (line : List Char) : (chomp line).getLast? ≠ some '\r' := by
  intro hlast
  have hne : chomp line ≠ [] := by
    intro hnil
    rw [hnil] at hlast
    exact Option.some_ne_none _ hlast.symm
  rw [List.getLast?_eq_some_getLast hne] at hlast
  exact List.rdropWhile_last_not _ _ hne (beq_iff_eq.mpr (Option.some.inj hlast))

/-- A line is what is left of it, and carriage returns. -/
theorem exists_returns_behind (line : List Char) :
    ∃ n, line = chomp line ++ List.replicate n '\r' := by
  have hreturns : ∀ c ∈ line.rtakeWhile (fun c => c == '\r'), c = '\r' := fun c hc =>
    beq_iff_eq.mp (List.mem_rtakeWhile_imp (p := fun c => c == '\r') hc)
  refine ⟨(line.rtakeWhile fun c => c == '\r').length, ?_⟩
  rw [← List.eq_replicate_of_mem hreturns]
  exact List.rdropWhile_append_rtakeWhile.symm

/-- What a line is without its carriage returns, and any number of them. -/
theorem chomp_eq_iff {line rest : List Char} (h : rest.getLast? ≠ some '\r') :
    chomp line = rest ↔ ∃ n, line = rest ++ List.replicate n '\r' := by
  constructor
  · rintro rfl
    exact exists_returns_behind line
  · rintro ⟨n, rfl⟩
    have hreturns : ∀ c ∈ List.replicate n '\r', (c == '\r') = true := fun c hc =>
      beq_iff_eq.mpr (List.eq_of_mem_replicate hc)
    exact (dropEndWhile_append_of_all rest hreturns).trans (chomp_of_getLast?_ne h)

theorem notMem_chomp {line : List Char} (h : '\n' ∉ line) : '\n' ∉ chomp line :=
  fun hmem => h ((List.rdropWhile_prefix _ _).subset hmem)

/-! ### The lines up to a delimiter -/

theorem linesBefore?_append {delimiter closing : List Char} {inner : List (List Char)}
    (hinner : ∀ l ∈ inner, chomp l ≠ delimiter) (hclosing : chomp closing = delimiter)
    (rest : List (List Char)) :
    linesBefore? delimiter (inner ++ closing :: rest) = some (inner.map chomp) := by
  induction inner with
  | nil => exact if_pos hclosing
  | cons l inner ih =>
    obtain ⟨hl, hinner⟩ := List.forall_mem_cons.mp hinner
    rw [List.cons_append, linesBefore?, if_neg hl, ih hinner]
    rfl

/-- The lines before the first delimiter are found just where there is one. -/
theorem linesBefore?_eq_some_iff {delimiter : List Char} {ls found : List (List Char)} :
    linesBefore? delimiter ls = some found ↔
      ∃ inner closing rest, ls = inner ++ closing :: rest ∧ (∀ l ∈ inner, chomp l ≠ delimiter) ∧
        chomp closing = delimiter ∧ found = inner.map chomp := by
  constructor
  · intro h
    induction ls generalizing found with
    | nil => exact absurd h (Option.some_ne_none _).symm
    | cons l ls ih =>
      rw [linesBefore?] at h
      split at h
      · next hl =>
        obtain rfl := Option.some.inj h
        exact ⟨[], l, ls, rfl, List.forall_mem_nil _, hl, rfl⟩
      · next hl =>
        obtain ⟨more, hmore, rfl⟩ := Option.map_eq_some_iff.mp h
        obtain ⟨inner, closing, rest, rfl, hinner, hclosing, rfl⟩ := ih hmore
        exact ⟨l :: inner, closing, rest, rfl, List.forall_mem_cons.mpr ⟨hl, hinner⟩, hclosing, rfl⟩
  · rintro ⟨inner, closing, rest, rfl, hinner, hclosing, rfl⟩
    exact linesBefore?_append hinner hclosing rest

/-- The block of a text, by its first line and the others. -/
theorem block?_of_lines {delimiter text : String} {first : List Char} {rest : List (List Char)}
    (h : lines text.toList = first :: rest) :
    block? delimiter text =
      if chomp first = delimiter.toList then
        (linesBefore? delimiter.toList rest).map fun ls => String.ofList (unlines ls)
      else none := by
  rw [block?, h]

/-- **Where the block is found**: between an opening delimiter on the first line and the first
delimiter behind it. -/
theorem block?_eq_some_iff {delimiter text block : String} :
    block? delimiter text = some block ↔
      ∃ opening inner closing rest, lines text.toList = opening :: (inner ++ closing :: rest) ∧
        chomp opening = delimiter.toList ∧ (∀ l ∈ inner, chomp l ≠ delimiter.toList) ∧
          chomp closing = delimiter.toList ∧
            block = String.ofList (unlines (inner.map chomp)) := by
  constructor
  · intro h
    rw [block?] at h
    split at h
    · exact absurd h (Option.some_ne_none _).symm
    · next opening ls hlines =>
      split at h
      · next hopening =>
        obtain ⟨found, hfound, rfl⟩ := Option.map_eq_some_iff.mp h
        obtain ⟨inner, closing, rest, rfl, hinner, hclosing, rfl⟩ :=
          linesBefore?_eq_some_iff.mp hfound
        exact ⟨opening, inner, closing, rest, hlines, hopening, hinner, hclosing, rfl⟩
      · exact absurd h (Option.some_ne_none _).symm
  · rintro ⟨opening, inner, closing, rest, hlines, hopening, hinner, hclosing, rfl⟩
    rw [block?_of_lines hlines, if_pos hopening, linesBefore?_append hinner hclosing]
    rfl

/-! ### What follows the block -/

/-- A text **follows a line** when it is empty or its first line feed ends that line. -/
def FollowsLine (body : String) : Prop :=
  body = "" ∨ ∃ rest, body = "\n" ++ rest

/-- **What follows a text with a block does not change the block**, whatever it is. -/
theorem block?_append {delimiter head body : String} (h : (block? delimiter head).isSome)
    (hbody : FollowsLine body) : block? delimiter (head ++ body) = block? delimiter head := by
  obtain ⟨block, hblock⟩ := Option.isSome_iff_exists.mp h
  rw [hblock]
  obtain ⟨opening, inner, closing, rest, hlines, hopening, hinner, hclosing, hfound⟩ :=
    block?_eq_some_iff.mp hblock
  rcases hbody with rfl | ⟨more, rfl⟩
  · rw [String.append_empty, hblock]
  · have hall : lines (head ++ ("\n" ++ more)).toList = lines head.toList ++ lines more.toList := by
      have hcut := lines_unlines_append_newline (lines_ne_nil head.toList)
        (fun l hl => newline_notMem_of_mem_lines hl) more.toList
      rw [unlines_lines] at hcut
      rw [String.toList_append, String.toList_append]
      exact hcut
    refine block?_eq_some_iff.mpr
      ⟨opening, inner, closing, rest ++ lines more.toList, ?_, hopening, hinner, hclosing, hfound⟩
    rw [hall, hlines, List.cons_append, List.append_assoc, List.cons_append]

/-! ### From lines to metadata -/

/-- The metadata of a block that is put together from lines. -/
theorem parse_ofList_unlines {ls : List (List Char)} (h : ∀ l ∈ ls, '\n' ∉ l) :
    Metadata.parse (String.ofList (unlines ls)) =
      ((ls.map Line.classify).foldl Reading.step {}).metadata := by
  rw [Metadata.parse, linesOf, String.toList_ofList]
  by_cases hls : ls = []
  · -- the empty block is one empty line, which says nothing
    subst hls
    rfl
  · rw [lines_unlines hls h]

end Rulebook.Frontmatter
