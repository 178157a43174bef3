import Rulebook.Proofs.Frontmatter.Trailing
import Rulebook.Proofs.Validation.Verdict

/-!
# Files without blanks at the ends of their frontmatter lines

`tidyText` takes away the blanks at the ends of the lines between the first line of a text and the
next delimiter. A line that would become a delimiter stays as it is, so the frontmatter ends where
it did.

**Main facts.** `metadata?_tidyText`: the metadata of a tidy text is that of its block, trimmed.
`trailing_blanks_matter_in_gathered_dashes_only`: so blanks at the ends of lines carry no meaning,
except behind the dash of an item without a value that goes to a list.
-/

namespace Rulebook.Frontmatter

open Text

/-! ### Tidying -/

/-- A line without the blanks at its end, unless it is a delimiter then. -/
def tidyLine (line : List Char) : List Char :=
  if trimEnd line = defaultDelimiter.toList then line else trimEnd line

/-- Tidies the lines ahead of the first delimiter. -/
def tidyLines : List (List Char) → List (List Char)
  | [] => []
  | line :: rest =>
    if chomp line = defaultDelimiter.toList then line :: rest else tidyLine line :: tidyLines rest

/-- Tidies the lines between the first line of a text and the next delimiter. -/
def tidyText (text : String) : String :=
  match lines text.toList with
  | [] => text
  | first :: rest => String.ofList (unlines (first :: tidyLines rest))

/-! ### Carriage returns and other blanks -/

private theorem trimEnd_chomp (line : List Char) : trimEnd (chomp line) = trimEnd line := by
  have hblank : OnlyBlanks (line.rtakeWhile fun c => c == '\r') := by
    intro c hc
    have hreturn := List.mem_rtakeWhile_imp (p := fun c => c == '\r') hc
    obtain rfl := beq_iff_eq.mp hreturn
    exact isBlank_return
  have hline : chomp line ++ line.rtakeWhile (fun c => c == '\r') = line :=
    List.rdropWhile_append_rtakeWhile
  conv_rhs => rw [← hline]
  exact (trimEnd_append_of_blank _ hblank).symm

private theorem chomp_trimEnd (line : List Char) : chomp (trimEnd line) = trimEnd line :=
  chomp_eq_self (isBlank_getLast?_trimEnd line)

/-- It makes no difference whether the carriage returns go first. -/
private theorem chomp_tidyLine (line : List Char) :
    chomp (tidyLine line) = tidyLine (chomp line) := by
  rw [tidyLine, tidyLine, trimEnd_chomp]
  split
  · rfl
  · exact chomp_trimEnd line

/-- Tidying makes no delimiter. -/
private theorem chomp_tidyLine_ne {line : List Char} (h : chomp line ≠ defaultDelimiter.toList) :
    chomp (tidyLine line) ≠ defaultDelimiter.toList := by
  rw [tidyLine]
  split
  · exact h
  · next hne => rwa [chomp_trimEnd]

private theorem notMem_tidyLine {line : List Char} (h : '\n' ∉ line) : '\n' ∉ tidyLine line := by
  rw [tidyLine]
  split
  · exact h
  · exact notMem_trimEnd h

private theorem notMem_of_mem_tidyLines {ls : List (List Char)} (h : ∀ l ∈ ls, '\n' ∉ l) :
    ∀ l ∈ tidyLines ls, '\n' ∉ l := by
  induction ls with
  | nil => exact h
  | cons line rest ih =>
    obtain ⟨hline, hrest⟩ := List.forall_mem_cons.mp h
    rw [tidyLines]
    split
    · exact h
    · exact List.forall_mem_cons.mpr ⟨notMem_tidyLine hline, ih hrest⟩

/-! ### The block of a tidy text -/

private theorem linesBefore?_tidyLines (ls : List (List Char)) :
    linesBefore? defaultDelimiter.toList (tidyLines ls) =
      (linesBefore? defaultDelimiter.toList ls).map (List.map tidyLine) := by
  induction ls with
  | nil => rfl
  | cons line rest ih =>
    rw [tidyLines, linesBefore?]
    split
    · next h =>
      rw [linesBefore?, if_pos h]
      rfl
    · next h =>
      rw [linesBefore?, if_neg (chomp_tidyLine_ne h), ih, chomp_tidyLine, Option.map_map,
        Option.map_map]
      rfl

private theorem lines_tidyText {text : String} {first : List Char} {rest : List (List Char)}
    (h : lines text.toList = first :: rest) :
    lines (tidyText text).toList = first :: tidyLines rest := by
  have hnewline : ∀ l ∈ first :: rest, '\n' ∉ l := fun l hl =>
    newline_notMem_of_mem_lines (h ▸ hl)
  obtain ⟨hfirst, hrest⟩ := List.forall_mem_cons.mp hnewline
  rw [tidyText, h]
  dsimp only
  rw [String.toList_ofList]
  exact lines_unlines (List.cons_ne_nil _ _)
    (List.forall_mem_cons.mpr ⟨hfirst, notMem_of_mem_tidyLines hrest⟩)

/-- A tidy line says what it says when it is trimmed. -/
private theorem classify_tidyLine {line : List Char} (h : '\n' ∉ line) :
    Line.classify (tidyLine line) = classifyTrimmed line := by
  rw [tidyLine]
  split
  · -- a line that stays as it is, is no dangling dash
    next hdelimiter =>
    refine (classify_trimEnd ?_ h).symm
    rintro ⟨before, after, rfl, hbefore, hafter, -⟩
    rw [trimEnd_dash hafter] at hdelimiter
    have hdashes : before ++ ['-'] = ['-', '-'] ++ ['-'] := hdelimiter
    rw [List.append_cancel_right_eq] at hdashes
    exact absurd (hbefore '-' (hdashes ▸ List.mem_cons_self)) (by decide)
  · rfl

private theorem trimLines_ofList_unlines {ls : List (List Char)} (h : ∀ l ∈ ls, '\n' ∉ l) :
    trimLines (String.ofList (unlines ls)) = String.ofList (unlines (ls.map trimEnd)) := by
  rw [trimLines, String.toList_ofList]
  by_cases hls : ls = []
  · subst hls
    rfl
  · rw [lines_unlines hls h]

/-- The metadata of some lines is the same whether they are tidied or trimmed. -/
private theorem parse_map_tidyLine {ls : List (List Char)} (h : ∀ l ∈ ls, '\n' ∉ l) :
    Metadata.parse (String.ofList (unlines (ls.map tidyLine))) =
      Metadata.parse (trimLines (String.ofList (unlines ls))) := by
  have htidy : ∀ l ∈ ls.map tidyLine, '\n' ∉ l :=
    List.forall_mem_map.mpr fun l hl => notMem_tidyLine (h l hl)
  have htrim : ∀ l ∈ ls.map trimEnd, '\n' ∉ l :=
    List.forall_mem_map.mpr fun l hl => notMem_trimEnd (h l hl)
  have hsame : (ls.map tidyLine).map Line.classify = (ls.map trimEnd).map Line.classify := by
    rw [List.map_map, List.map_map]
    exact List.map_congr_left fun l hl => classify_tidyLine (h l hl)
  rw [trimLines_ofList_unlines h, parse_ofList_unlines htidy, parse_ofList_unlines htrim, hsame]

/-- The metadata of a tidy text is that of its block, trimmed. -/
theorem metadata?_tidyText (text : String) :
    Settings.metadata? (tidyText text) =
      (block? defaultDelimiter text).map fun block => Metadata.parse (trimLines block) := by
  obtain ⟨first, rest, hlines⟩ := List.exists_cons_of_ne_nil (lines_ne_nil text.toList)
  have hrest : ∀ l ∈ rest, '\n' ∉ l := fun l hl =>
    newline_notMem_of_mem_lines (hlines ▸ List.mem_cons_of_mem _ hl)
  rw [Settings.metadata?, block?_of_lines hlines, block?_of_lines (lines_tidyText hlines)]
  by_cases hfirst : chomp first = defaultDelimiter.toList
  · rw [if_pos hfirst, if_pos hfirst, linesBefore?_tidyLines]
    cases hfound : linesBefore? defaultDelimiter.toList rest with
    | none => simp only [Option.map_none]
    | some found =>
      obtain ⟨inner, closing, behind, rfl, -, -, rfl⟩ := linesBefore?_eq_some_iff.mp hfound
      have hinner : ∀ l ∈ inner.map chomp, '\n' ∉ l := List.forall_mem_map.mpr fun l hl =>
        notMem_chomp (hrest l (List.mem_append_left _ hl))
      simp only [Option.map_some]
      rw [parse_map_tidyLine hinner]
  · rw [if_neg hfirst, if_neg hfirst, Option.map_none, Option.map_none]

/-! ### What blanks at the ends of lines may mean -/

/-- **Blanks at the ends of lines** say nothing but in a dangling dash that is gathered. The lines
of a block can be trimmed just when there is none in it, since the last blank of a dangling dash is
an item that its trimmed line is not. A file without one in its frontmatter gets the same verdict
after tidying. -/
theorem trailing_blanks_matter_in_gathered_dashes_only (s : Settings) (root : Option Path)
    (path : Path) :
    (∀ block, Metadata.parse (trimLines block) = Metadata.parse block ↔
      NoGatheredDash (lines block.toList)) ∧
    (∀ line, '\n' ∉ line → IsDanglingDash line →
      ∃ c, line.getLast? = some c ∧ Line.classify line = .item (String.ofList [c]) ∧
        Line.classify (trimEnd line) = .unrecognized) ∧
    ∀ text, (∀ block, block? defaultDelimiter text = some block →
        NoGatheredDash (lines block.toList)) →
      s.validate root path (tidyText text) = s.validate root path text := by
  refine ⟨parse_trimLines_iff, fun line hline hdash => ?_, fun text h => ?_⟩
  · obtain ⟨c, hlast, -, hitem⟩ := classify_danglingDash hdash hline
    exact ⟨c, hlast, hitem, classify_trimEnd_danglingDash hdash⟩
  · refine s.validate_congr root path ?_
    rw [metadata?_tidyText, Settings.metadata?]
    exact Option.map_congr fun block hblock => (parse_trimLines_iff block).mpr (h block hblock)

/-- The blank behind a dash is an item, which hides from a strict run that there are no patterns. -/
theorem blank_behind_dash_is_item :
    (Metadata.parse "paths:\n- ").entries = [("paths", .list [.text " "])] ∧
      (Metadata.parse (trimLines "paths:\n- ")).entries = [("paths", .list [])] ∧
      Settings.validate { strict := true } none (Path.ofString "rule.md")
        "---\ndescription: x\npaths:\n- \n---\n" = [] ∧
      Settings.validate { strict := true } none (Path.ofString "rule.md")
        (tidyText "---\ndescription: x\npaths:\n- \n---\n") =
          [Check.emptyPathsFinding.at (Path.ofString "rule.md")] := by
  exact ⟨by rfl, by rfl, by rfl, by rfl⟩

end Rulebook.Frontmatter
