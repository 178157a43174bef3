import Rulebook.FileTree.Edit
import Rulebook.Proofs.Frontmatter.Delimited
import Rulebook.Proofs.Validation.Verdict

/-!
# Line endings

Carriage returns reach a rule file in two ways. They may stand at the end of a line, any number of
them, and the block is found without them. And where each stands ahead of a line feed, reading the
file has made one line feed of the two before the block is looked for. Both come down to one fact:
what is found in a text depends on its lines without the carriage returns at their ends.

**Main facts.** `block?_congr`: the block depends on the chomped lines of the text only.
`map_chomp_lines_unifyNewlines`: these stay when the line endings are unified.
`line_endings_are_invisible`: so the verdict on a file does not depend on how its lines end.
-/

namespace Rulebook.Frontmatter

open Text

/-! ### The block by chomped lines -/

private theorem chomp_chomp (line : List Char) : chomp (chomp line) = chomp line :=
  chomp_of_getLast?_ne (getLast?_chomp_ne line)

private theorem chomp_append_replicate (line : List Char) (n : ℕ) :
    chomp (line ++ List.replicate n '\r') = chomp line :=
  dropEndWhile_append_of_all line fun _ hc => beq_iff_eq.mpr (List.eq_of_mem_replicate hc)

/-- Only a carriage return can be lost from the front of a line. -/
private theorem chomp_cons {c : Char} (h : c ≠ '\r') (line : List Char) :
    chomp (c :: line) = c :: chomp line := by
  obtain ⟨n, hline⟩ := exists_returns_behind line
  have hlast : (c :: chomp line).getLast? ≠ some '\r' := by
    rw [List.getLast?_cons]
    cases hchomp : (chomp line).getLast? with
    | none => exact fun hc => h (Option.some.inj hc)
    | some d => exact fun hd => getLast?_chomp_ne line (hchomp.trans hd)
  exact (chomp_eq_iff hlast).mpr ⟨n, congrArg (c :: ·) hline⟩

private theorem linesBefore?_map_chomp (delimiter : List Char) (ls : List (List Char)) :
    linesBefore? delimiter (ls.map chomp) = linesBefore? delimiter ls := by
  induction ls with
  | nil => rfl
  | cons l ls ih => rw [List.map_cons, linesBefore?, linesBefore?, chomp_chomp, ih]

/-- **The block of a text** depends on its lines without the carriage returns at their ends. -/
theorem block?_congr {text other : String}
    (h : (lines text.toList).map chomp = (lines other.toList).map chomp) (delimiter : String) :
    block? delimiter text = block? delimiter other := by
  obtain ⟨first, rest, hlines⟩ := List.exists_cons_of_ne_nil (lines_ne_nil text.toList)
  obtain ⟨first', rest', hlines'⟩ := List.exists_cons_of_ne_nil (lines_ne_nil other.toList)
  rw [hlines, hlines', List.map_cons, List.map_cons] at h
  obtain ⟨hfirst, hrest⟩ := List.cons_eq_cons.mp h
  rw [block?_of_lines hlines, block?_of_lines hlines', hfirst, ← linesBefore?_map_chomp, hrest,
    linesBefore?_map_chomp]

/-! ### Carriage returns at the ends of lines -/

/-- A text with more carriage returns at the ends of its lines: `returns i` of them behind line
`i`. -/
def withReturns (returns : ℕ → ℕ) (text : String) : String :=
  String.ofList (unlines ((lines text.toList).mapIdx fun i line =>
    line ++ List.replicate (returns i) '\r'))

private theorem lines_withReturns (returns : ℕ → ℕ) (text : String) :
    lines (withReturns returns text).toList =
      (lines text.toList).mapIdx fun i line => line ++ List.replicate (returns i) '\r' := by
  rw [withReturns, String.toList_ofList]
  refine lines_unlines (mt List.mapIdx_eq_nil_iff.mp (lines_ne_nil _)) fun l hl => ?_
  obtain ⟨i, hi, rfl⟩ := List.mem_mapIdx.mp hl
  have hline : '\n' ∉ (lines text.toList)[i] := newline_notMem_of_mem_lines (List.getElem_mem hi)
  simp [List.mem_replicate, hline]

private theorem map_chomp_lines_withReturns (returns : ℕ → ℕ) (text : String) :
    (lines (withReturns returns text).toList).map chomp = (lines text.toList).map chomp := by
  rw [lines_withReturns]
  refine List.ext_getElem (by simp) fun i _ _ => ?_
  rw [List.getElem_map, List.getElem_map, List.getElem_mapIdx, chomp_append_replicate]

/-! ### Line endings made one -/

/-- Each carriage return of a text **ends a line** when a line feed follows it at once. -/
def ReturnsEndLines (text : List Char) : Prop :=
  ∀ before after, text = before ++ '\r' :: after → after.head? = some '\n'

private theorem returnsEndLines_nil : ReturnsEndLines [] := fun _ _ h =>
  absurd h.symm (List.append_ne_nil_of_right_ne_nil _ (List.cons_ne_nil _ _))

private theorem returnsEndLines_cons {c : Char} {s : List Char} :
    ReturnsEndLines (c :: s) ↔ (c = '\r' → s.head? = some '\n') ∧ ReturnsEndLines s := by
  constructor
  · intro h
    refine ⟨fun hc => h [] s (congrArg (· :: s) hc), fun before after heq => ?_⟩
    exact h (c :: before) after (congrArg (c :: ·) heq)
  · rintro ⟨hfirst, hs⟩ before after heq
    cases before with
    | nil =>
      obtain ⟨hc, rfl⟩ := List.cons_eq_cons.mp heq
      exact hfirst hc
    | cons d before => exact hs before after (List.cons_eq_cons.mp heq).2

/-- Any other character stands at the start of the first line. -/
private theorem map_chomp_lines_cons {c : Char} (hline : c ≠ '\n') (hreturn : c ≠ '\r')
    (s : List Char) :
    (lines (c :: s)).map chomp = ((lines s).map chomp).modifyHead (c :: ·) := by
  obtain ⟨l, ls, hlines⟩ := List.exists_cons_of_ne_nil (lines_ne_nil s)
  rw [lines, if_neg hline, hlines]
  exact congrArg (· :: ls.map chomp) (chomp_cons hreturn l)

/-- **Unified line endings** leave the chomped lines of a text as they are, where its carriage
returns end lines. -/
theorem map_chomp_lines_unifyNewlines {s : List Char} (h : ReturnsEndLines s) :
    (lines (unifyNewlines s)).map chomp = (lines s).map chomp := by
  fun_induction unifyNewlines s with
  | case1 => rfl
  | case2 t ih =>
    obtain ⟨-, hfeed⟩ := returnsEndLines_cons.mp h
    obtain ⟨-, ht⟩ := returnsEndLines_cons.mp hfeed
    -- the carriage return is the whole of the first line, and is lost from it
    have hlines : lines ('\r' :: '\n' :: t) = ['\r'] :: lines t := rfl
    rw [hlines, lines, if_pos rfl, List.map_cons, List.map_cons, ih ht]
    rfl
  | case3 s hs =>
    -- a carriage return without a line feed ends no line
    obtain ⟨hfirst, -⟩ := returnsEndLines_cons.mp h
    obtain ⟨t, rfl⟩ := List.head?_eq_some_iff.mp (hfirst rfl)
    exact absurd rfl (hs t)
  | case4 c s hc ih =>
    obtain ⟨-, hs⟩ := returnsEndLines_cons.mp h
    by_cases hline : c = '\n'
    · rw [hline, lines, lines, if_pos rfl, if_pos rfl, List.map_cons, List.map_cons, ih hs]
    · rw [map_chomp_lines_cons hline hc, map_chomp_lines_cons hline hc, ih hs]

/-- A carriage return inside a line is a line ending for the reader, but not for the block. -/
example : (lines (unifyNewlines ['a', '\r', 'b'])).map chomp = [['a'], ['b']] ∧
    (lines ['a', '\r', 'b']).map chomp = [['a', '\r', 'b']] :=
  ⟨by rfl, by rfl⟩

end Rulebook.Frontmatter

namespace Rulebook.Settings

open Frontmatter Text

private theorem validate_eq_of_block?_eq (s : Settings) (root : Option Path) (path : Path)
    {text other : String} (h : block? defaultDelimiter text = block? defaultDelimiter other) :
    s.validate root path text = s.validate root path other :=
  s.validate_congr root path (congrArg (Option.map Metadata.parse) h)

/-- **Line endings are invisible.** Carriage returns at the ends of lines, any number of them and of
their own for each line, leave the verdict on a file as it is, wherever it is and whatever the
settings are. Where each carriage return of a text stands ahead of a line feed, the verdict on the
text as it is stored is the one on the text as it is read from a file, with line feeds as its only
line endings. -/
theorem line_endings_are_invisible (s : Settings) (root : Option Path) (path : Path)
    (text : String) :
    (∀ returns : ℕ → ℕ,
      s.validate root path (withReturns returns text) = s.validate root path text) ∧
    (ReturnsEndLines text.toList →
      s.validate root path (String.ofList (unifyNewlines text.toList)) =
          s.validate root path text ∧
        ∀ (t : FileTree) (bytes : List UInt8), t.readBytes path = .ok bytes →
          Utf8.decode bytes = .ok text.toList →
            ∃ read, t.readText path = .ok read ∧
              s.validate root path read = s.validate root path text) := by
  refine ⟨fun returns => ?_, fun h => ?_⟩
  · exact s.validate_eq_of_block?_eq root path
      (block?_congr (map_chomp_lines_withReturns returns text) defaultDelimiter)
  · have hunified : s.validate root path (String.ofList (unifyNewlines text.toList)) =
        s.validate root path text := by
      refine s.validate_eq_of_block?_eq root path (block?_congr ?_ defaultDelimiter)
      rw [String.toList_ofList, map_chomp_lines_unifyNewlines h]
    refine ⟨hunified, fun t bytes hbytes hdecode => ⟨_, ?_, hunified⟩⟩
    rw [FileTree.readText, hbytes]
    dsimp only
    rw [hdecode]

/-- A file with both line endings and an item in quotes, as it is stored and as it is read. -/
theorem line_endings_are_invisible_of_mixed_text :
    let s : Settings := { strict := true }
    let root : Path := ⟨.current, ["configs"]⟩
    let stored := String.ofList ['-', '-', '-', '\r', '\n', 'p', ':', '\n', '-', ' ', '"', 'a', '"',
      '\r', '\n', '-', '-', '-']
    let read := String.ofList ['-', '-', '-', '\n', 'p', ':', '\n', '-', ' ', '"', 'a', '"', '\n',
      '-', '-', '-']
    let path := root.child "a.md"
    let t := ({} : FileTree).putFile path
      [45, 45, 45, 13, 10, 112, 58, 10, 45, 32, 34, 97, 34, 13, 10, 45, 45, 45]
    ReturnsEndLines stored.toList ∧ t.readText path = .ok read ∧
      s.validate (some root) path read = s.validate (some root) path stored := by
  intro s root stored read path t
  have hreturns : ReturnsEndLines stored.toList := by
    simp [stored, returnsEndLines_cons, returnsEndLines_nil]
  have hbytes : t.readBytes path =
      .ok [45, 45, 45, 13, 10, 112, 58, 10, 45, 32, 34, 97, 34, 13, 10, 45, 45, 45] := by rfl
  have hdecode : Utf8.decode [45, 45, 45, 13, 10, 112, 58, 10, 45, 32, 34, 97, 34, 13, 10, 45, 45,
      45] = .ok stored.toList := by
    rw [String.toList_ofList]
    rfl
  have hread : t.readText path = .ok read := by
    rw [FileTree.readText, hbytes]
    rfl
  obtain ⟨other, hother, hsame⟩ :=
    ((line_endings_are_invisible s (some root) path stored).2 hreturns).2 t _ hbytes hdecode
  obtain rfl : read = other := Except.ok.inj (hread.symm.trans hother)
  exact ⟨hreturns, hread, hsame⟩

end Rulebook.Settings
