import Rulebook.Proofs.Frontmatter.Delimited

/-!
# Texts that enclose a block

`block?` cuts a text into lines and searches them for delimiters. The other way round, a text that
has a block can be put together: from an opening delimiter, lines that are none, a closing
delimiter, and anything that begins on the next line.

**Main fact.** `block?_recognises_enclosed`: a text has a block just when it can be put together in
this way, and then it has only that one.

Cutting and joining lines are inverse to each other, so that the text is put together as its lines
are (`encloses_iff_lines`), provided that the delimiter can be a line without carriage returns at
its end. No other delimiter is ever found.
-/

namespace Rulebook.Frontmatter

open Text

/-- A text **encloses** some lines when it is made of an opening delimiter, the lines, and a closing
delimiter that is the first, where carriage returns may follow the delimiters, and of anything that
follows that line. -/
def Encloses (delimiter text : String) (inner : List (List Char)) : Prop :=
  (∀ l ∈ inner, '\n' ∉ l ∧ chomp l ≠ delimiter.toList) ∧
    ∃ opening closing body, FollowsLine body ∧
      text = String.ofList (unlines
        ((delimiter.toList ++ List.replicate opening '\r') ::
          (inner ++ [delimiter.toList ++ List.replicate closing '\r']))) ++ body

private theorem exists_followsLine_iff {head text : String} :
    (∃ body, FollowsLine body ∧ text = head ++ body) ↔
      text.toList = head.toList ∨ ∃ more, text.toList = head.toList ++ '\n' :: more := by
  constructor
  · rintro ⟨body, rfl | ⟨more, rfl⟩, rfl⟩
    · exact .inl (by rw [String.append_empty])
    · exact .inr ⟨more.toList, by rw [String.toList_append, String.toList_append]; rfl⟩
  · rintro (h | ⟨more, h⟩)
    · exact ⟨"", .inl rfl, by rw [String.append_empty, String.toList_inj.mp h]⟩
    · refine ⟨"\n" ++ String.ofList more, .inr ⟨_, rfl⟩, String.toList_inj.mp ?_⟩
      rw [h, String.toList_append, String.toList_append, String.toList_ofList (l := more)]
      rfl

section Possible

variable {delimiter text : String} (hline : '\n' ∉ delimiter.toList)
  (hreturn : delimiter.toList.getLast? ≠ some '\r')

include hline hreturn

/-- A text encloses lines when they stand between its first line and the next delimiter. -/
theorem encloses_iff_lines {inner : List (List Char)} :
    Encloses delimiter text inner ↔
      ∃ opening closing rest, lines text.toList = opening :: (inner ++ closing :: rest) ∧
        chomp opening = delimiter.toList ∧ (∀ l ∈ inner, chomp l ≠ delimiter.toList) ∧
          chomp closing = delimiter.toList := by
  have hdelimiter (n : ℕ) : '\n' ∉ delimiter.toList ++ List.replicate n '\r' := by
    simp [List.mem_replicate, hline]
  constructor
  · rintro ⟨hinner, n, m, hbody⟩
    rw [exists_followsLine_iff, String.toList_ofList] at hbody
    have hall : ∀ l ∈ (delimiter.toList ++ List.replicate n '\r') ::
        (inner ++ [delimiter.toList ++ List.replicate m '\r']), '\n' ∉ l := by
      refine List.forall_mem_cons.mpr ⟨hdelimiter n, List.forall_mem_append.mpr ⟨?_, ?_⟩⟩
      · exact fun l hl => (hinner l hl).1
      · exact List.forall_mem_singleton.mpr (hdelimiter m)
    obtain ⟨rest, hrest⟩ := (exists_lines_eq_append_iff (List.cons_ne_nil _ _) hall).mpr hbody
    rw [List.cons_append, List.append_assoc, List.singleton_append] at hrest
    exact ⟨_, _, rest, hrest, (chomp_eq_iff hreturn).mpr ⟨n, rfl⟩, fun l hl => (hinner l hl).2,
      (chomp_eq_iff hreturn).mpr ⟨m, rfl⟩⟩
  · rintro ⟨opening, closing, rest, hlines, hopening, hinner, hclosing⟩
    obtain ⟨n, rfl⟩ := (chomp_eq_iff hreturn).mp hopening
    obtain ⟨m, rfl⟩ := (chomp_eq_iff hreturn).mp hclosing
    have hall : ∀ l ∈ lines text.toList, '\n' ∉ l := fun l hl => newline_notMem_of_mem_lines hl
    rw [List.append_cons, ← List.cons_append] at hlines
    have hhead := (List.forall_mem_append.mp (hlines ▸ hall)).1
    refine ⟨fun l hl => ⟨?_, hinner l hl⟩, n, m, ?_⟩
    · exact hhead l (List.mem_cons_of_mem _ (List.mem_append_left _ hl))
    · rw [exists_followsLine_iff, String.toList_ofList]
      exact (exists_lines_eq_append_iff (List.cons_ne_nil _ _) hhead).mp ⟨rest, hlines⟩

private theorem block?_eq_some_iff_encloses {block : String} :
    block? delimiter text = some block ↔
      ∃ inner, Encloses delimiter text inner ∧
        block = String.ofList (unlines (inner.map chomp)) := by
  simp only [block?_eq_some_iff, encloses_iff_lines hline hreturn]
  constructor
  · rintro ⟨opening, inner, closing, rest, hlines, hopening, hinner, hclosing, hblock⟩
    exact ⟨inner, ⟨opening, closing, rest, hlines, hopening, hinner, hclosing⟩, hblock⟩
  · rintro ⟨inner, ⟨opening, closing, rest, hlines, hopening, hinner, hclosing⟩, hblock⟩
    exact ⟨opening, inner, closing, rest, hlines, hopening, hinner, hclosing, hblock⟩

/-- The lines that a text encloses are told by the text, up to carriage returns. -/
private theorem Encloses.map_chomp_eq {inner other : List (List Char)}
    (h : Encloses delimiter text inner) (h' : Encloses delimiter text other) :
    inner.map chomp = other.map chomp := by
  rw [encloses_iff_lines hline hreturn] at h h'
  obtain ⟨_, closing, rest, hlines, -, hinner, hclosing⟩ := h
  obtain ⟨_, closing', rest', hlines', -, hinner', hclosing'⟩ := h'
  -- both are the lines ahead of the first delimiter behind the first line
  obtain ⟨-, hsame⟩ := List.cons_eq_cons.mp (hlines.symm.trans hlines')
  have hfound := linesBefore?_append hinner hclosing rest
  rw [hsame, linesBefore?_append hinner' hclosing' rest'] at hfound
  exact (Option.some.inj hfound).symm

end Possible

/-- A delimiter that no line can be is not found. -/
private theorem block?_eq_none_of_impossible {delimiter : String}
    (h : '\n' ∈ delimiter.toList ∨ delimiter.toList.getLast? = some '\r') (text : String) :
    block? delimiter text = none := by
  obtain ⟨first, rest, hlines⟩ := List.exists_cons_of_ne_nil (lines_ne_nil text.toList)
  have hnewline : '\n' ∉ first := newline_notMem_of_mem_lines (hlines ▸ List.mem_cons_self)
  have hfirst : chomp first ≠ delimiter.toList := by
    intro hfirst
    rw [← hfirst] at h
    rcases h with hmem | hlast
    · exact notMem_chomp hnewline hmem
    · exact getLast?_chomp_ne first hlast
  rw [block?_of_lines hlines, if_neg hfirst]

/-- **The block of a text is what its delimiters enclose.** It is found if the text encloses any
lines, and these are the lines of the block, without their carriage returns; so there is no other
block. A line feed and anything behind it leave the block as it is. A delimiter that no line can be,
because it holds a line feed or ends with a carriage return, encloses nothing. -/
theorem block?_recognises_enclosed (delimiter text : String) :
    ('\n' ∉ delimiter.toList → delimiter.toList.getLast? ≠ some '\r' →
      (∀ block, block? delimiter text = some block ↔
        ∃ inner, Encloses delimiter text inner ∧
          block = String.ofList (unlines (inner.map chomp))) ∧
      (block? delimiter text = none ↔ ¬ ∃ inner, Encloses delimiter text inner) ∧
      ∀ inner other, Encloses delimiter text inner → Encloses delimiter text other →
        inner.map chomp = other.map chomp) ∧
    (∀ block, block? delimiter text = some block →
      ∀ rest, block? delimiter (text ++ "\n" ++ rest) = some block) ∧
    ('\n' ∈ delimiter.toList ∨ delimiter.toList.getLast? = some '\r' →
      block? delimiter text = none) := by
  refine ⟨fun hline hreturn => ⟨fun _ => block?_eq_some_iff_encloses hline hreturn, ?_, ?_⟩, ?_, ?_⟩
  · rw [Option.eq_none_iff_forall_ne_some]
    constructor
    · rintro hnone ⟨inner, h⟩
      exact hnone _ ((block?_eq_some_iff_encloses hline hreturn).mpr ⟨inner, h, rfl⟩)
    · intro hnot block h
      obtain ⟨inner, h, -⟩ := (block?_eq_some_iff_encloses hline hreturn).mp h
      exact hnot ⟨inner, h⟩
  · exact fun inner other h h' => h.map_chomp_eq hline hreturn h'
  · intro block h rest
    rw [String.append_assoc, ← h]
    exact block?_append (Option.isSome_iff_exists.mpr ⟨block, h⟩) (.inr ⟨rest, rfl⟩)
  · exact fun h => block?_eq_none_of_impossible h text

/-- Carriage returns do not reach the block, and a delimiter in the body is not the first. -/
example : block? "---" "---\r\na: b\r\n\n---\r\r\nx\n---" = some "a: b\n" := by rfl

/-- The delimiter may be empty. -/
example : block? "" "\r\nx\n" = some "x" := by rfl

end Rulebook.Frontmatter
