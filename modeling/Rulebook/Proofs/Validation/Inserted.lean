import Rulebook.Proofs.Frontmatter.Delimited
import Rulebook.Proofs.Validation.Verdict

/-!
# Lines that go unread

A blank line, a comment and a line that is not understood are passed over, wherever they stand in
the frontmatter. `withLine` puts one more line between two others, and a text is cut *inside its
block* where the line before the cut and the line behind it stand between its delimiters, or are
these.

**Main facts.** `foldl_step_insert`: a line that is passed over leaves what was read as it is.
`GoesUnread.chomp_ne`: no such line is a delimiter. `unread_line_is_invisible`: so it can be put
into the frontmatter, or taken out of it, and the verdict on the file stays.
-/

namespace Rulebook.Frontmatter

open Text

/-- A line **goes unread** when it is ignored or not understood, its carriage returns apart. -/
def GoesUnread (line : List Char) : Prop :=
  Line.classify (chomp line) = .ignored ∨ Line.classify (chomp line) = .unrecognized

/-- The text whose lines are some lines, one more, and some others. -/
def withLine (before : List (List Char)) (line : List Char) (after : List (List Char)) : String :=
  String.ofList (unlines (before ++ line :: after))

/-- A text is **cut inside its block** when the lines before the cut are the opening delimiter and
others that are no delimiters, and there is a delimiter among the lines behind it. -/
structure CutInside (text : String) (before after : List (List Char)) : Prop where
  lines_eq : lines text.toList = before ++ after
  opens : ∃ opening front, before = opening :: front ∧ chomp opening = defaultDelimiter.toList ∧
    ∀ l ∈ front, chomp l ≠ defaultDelimiter.toList
  closes : ∃ l ∈ after, chomp l = defaultDelimiter.toList

/-! ### One line more -/

/-- A delimiter is read as an item, so that a line that goes unread is none. -/
theorem GoesUnread.chomp_ne {line : List Char} (h : GoesUnread line) :
    chomp line ≠ defaultDelimiter.toList := by
  intro hdelimiter
  have hitem : Line.classify defaultDelimiter.toList = .item "--" := by rfl
  rw [GoesUnread, hdelimiter, hitem] at h
  rcases h with h | h <;> cases h

private theorem step_of_goesUnread {line : List Char} (h : GoesUnread line) (r : Reading) :
    r.step (Line.classify (chomp line)) = r := by
  rcases h with h | h <;> rw [h] <;> rfl

/-- **A line that goes unread** leaves what was read before it as it is: the open list stays
open. -/
theorem foldl_step_insert {line : List Char} (h : GoesUnread line) (front back : List (List Char))
    (r : Reading) :
    (((front ++ line :: back).map chomp).map Line.classify).foldl Reading.step r =
      (((front ++ back).map chomp).map Line.classify).foldl Reading.step r := by
  simp only [List.map_append, List.map_cons, List.foldl_append, List.foldl_cons,
    step_of_goesUnread h]

private theorem parse_insert {line : List Char} (h : GoesUnread line)
    {front back : List (List Char)} (hls : ∀ l ∈ front ++ line :: back, '\n' ∉ l) :
    Metadata.parse (String.ofList (unlines ((front ++ line :: back).map chomp))) =
      Metadata.parse (String.ofList (unlines ((front ++ back).map chomp))) := by
  have hmore : ∀ l ∈ (front ++ line :: back).map chomp, '\n' ∉ l :=
    List.forall_mem_map.mpr fun l hl => notMem_chomp (hls l hl)
  have hsub : (front ++ back).Sublist (front ++ line :: back) :=
    (List.Sublist.refl front).append (List.sublist_cons_self line back)
  have hless : ∀ l ∈ (front ++ back).map chomp, '\n' ∉ l :=
    List.forall_mem_map.mpr fun l hl => notMem_chomp (hls l (hsub.subset hl))
  rw [parse_ofList_unlines hmore, parse_ofList_unlines hless, foldl_step_insert h]

/-! ### One line more in a text -/

/-- Some lines with a delimiter among them are others, the first delimiter, and a rest. -/
private theorem exists_first_delimiter {delimiter : List Char} {ls : List (List Char)}
    (h : ∃ l ∈ ls, chomp l = delimiter) :
    ∃ back closing rest, ls = back ++ closing :: rest ∧ (∀ l ∈ back, chomp l ≠ delimiter) ∧
      chomp closing = delimiter := by
  induction ls with
  | nil =>
    obtain ⟨l, hl, -⟩ := h
    exact absurd hl List.not_mem_nil
  | cons first ls ih =>
    by_cases hfirst : chomp first = delimiter
    · exact ⟨[], first, ls, rfl, List.forall_mem_nil _, hfirst⟩
    · rw [List.exists_mem_cons_iff] at h
      obtain ⟨back, closing, rest, rfl, hback, hclosing⟩ := ih (h.resolve_left hfirst)
      exact ⟨first :: back, closing, rest, rfl, List.forall_mem_cons.mpr ⟨hfirst, hback⟩, hclosing⟩

/-- The lines of a text with one more line. -/
private theorem lines_withLine {text : String} {before after : List (List Char)}
    (h : lines text.toList = before ++ after) {line : List Char} (hline : '\n' ∉ line) :
    lines (withLine before line after).toList = before ++ line :: after := by
  have hall : ∀ l ∈ before ++ after, '\n' ∉ l := fun l hl => newline_notMem_of_mem_lines (h ▸ hl)
  obtain ⟨hbefore, hafter⟩ := List.forall_mem_append.mp hall
  rw [withLine, String.toList_ofList]
  refine lines_unlines (List.append_ne_nil_of_right_ne_nil _ (List.cons_ne_nil _ _)) ?_
  exact List.forall_mem_append.mpr ⟨hbefore, List.forall_mem_cons.mpr ⟨hline, hafter⟩⟩

/-- **A line that goes unread is invisible** inside the frontmatter. The block gets it as one more
line, and ends where it did; the metadata of the block stays the same, and so does the verdict on
the file, wherever it is and whatever the settings are. -/
theorem unread_line_is_invisible {text : String} {before after : List (List Char)}
    (hcut : CutInside text before after) {line : List Char} (hline : '\n' ∉ line)
    (hunread : GoesUnread line) :
    (∃ back closing rest, after = back ++ closing :: rest ∧
      chomp closing = defaultDelimiter.toList ∧
      block? defaultDelimiter text =
        some (String.ofList (unlines ((before.tail ++ back).map chomp))) ∧
      block? defaultDelimiter (withLine before line after) =
        some (String.ofList (unlines ((before.tail ++ line :: back).map chomp)))) ∧
    Settings.metadata? (withLine before line after) = Settings.metadata? text ∧
    ∀ (s : Settings) (root : Option Path) (path : Path),
      s.validate root path (withLine before line after) = s.validate root path text := by
  obtain ⟨opening, front, rfl, hopening, hfront⟩ := hcut.opens
  obtain ⟨back, closing, rest, rfl, hback, hclosing⟩ := exists_first_delimiter hcut.closes
  have hlines : lines text.toList = opening :: (front ++ back ++ closing :: rest) := by
    rw [hcut.lines_eq, List.cons_append, List.append_assoc]
  have hmore : lines (withLine (opening :: front) line (back ++ closing :: rest)).toList =
      opening :: (front ++ line :: back ++ closing :: rest) := by
    rw [lines_withLine hcut.lines_eq hline, List.cons_append, List.append_assoc, List.cons_append]
  have hblock : block? defaultDelimiter text =
      some (String.ofList (unlines ((front ++ back).map chomp))) :=
    block?_eq_some_iff.mpr ⟨opening, front ++ back, closing, rest, hlines, hopening,
      List.forall_mem_append.mpr ⟨hfront, hback⟩, hclosing, rfl⟩
  have hinserted : block? defaultDelimiter (withLine (opening :: front) line
      (back ++ closing :: rest)) =
        some (String.ofList (unlines ((front ++ line :: back).map chomp))) := by
    refine block?_eq_some_iff.mpr ⟨opening, front ++ line :: back, closing, rest, hmore, hopening,
      List.forall_mem_append.mpr ⟨hfront, ?_⟩, hclosing, rfl⟩
    exact List.forall_mem_cons.mpr ⟨hunread.chomp_ne, hback⟩
  have hmetadata : Settings.metadata? (withLine (opening :: front) line
      (back ++ closing :: rest)) = Settings.metadata? text := by
    have hall : ∀ l ∈ front ++ line :: back, '\n' ∉ l := fun l hl =>
      newline_notMem_of_mem_lines (hmore ▸ List.mem_cons_of_mem _ (List.mem_append_left _ hl))
    rw [Settings.metadata?, Settings.metadata?, hblock, hinserted, Option.map_some,
      Option.map_some, parse_insert hunread hall]
  exact ⟨⟨back, closing, rest, rfl, hclosing, hblock, hinserted⟩, hmetadata,
    fun s root path => s.validate_congr root path hmetadata⟩

/-- A line that looks like a nested key, between a key and the item of its list. -/
theorem nested_key_is_invisible :
    CutInside "---\npaths:\n- a\n---" ["---".toList, "paths:".toList]
        ["- a".toList, "---".toList] ∧
      GoesUnread "  globs: all\r".toList ∧
      ∀ (s : Settings) (root : Option Path) (path : Path),
        s.validate root path (withLine ["---".toList, "paths:".toList] "  globs: all\r".toList
          ["- a".toList, "---".toList]) = s.validate root path "---\npaths:\n- a\n---" := by
  have hcut : CutInside "---\npaths:\n- a\n---" ["---".toList, "paths:".toList]
      ["- a".toList, "---".toList] :=
    ⟨rfl, ⟨_, _, rfl, by decide, by decide⟩, ⟨_, .tail _ (.head _), by decide⟩⟩
  have hunread : GoesUnread "  globs: all\r".toList := .inr (by rfl)
  exact ⟨hcut, hunread, (unread_line_is_invisible hcut (by decide) hunread).2.2⟩

end Rulebook.Frontmatter
