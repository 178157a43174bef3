import Rulebook.Proofs.Frontmatter.KeyLines
import Rulebook.Proofs.Validation.Below
import Rulebook.Proofs.Validation.Findings
import Mathlib.Data.List.Infix

/-!
# What a lenient run says

Settings that are not strict have at most one thing to say about a file: that it has no frontmatter,
although it does not lie in the shared area, or that its patterns are no list. Files that are exempt
are not looked at.

**Main fact.** `lenient_verdict`: which of the two is said, and when. Where a file lies is told by
the names of its folders, and whether its patterns are a list by the last line about them.
-/

namespace Rulebook

open Frontmatter

/-! ### Folders -/

/-- A stretch of consecutive members. -/
private theorem containsRun_eq_true_iff {run names : List String} :
    containsRun run names = true ↔ run <:+: names := by
  induction names with
  | nil => rw [containsRun, List.isEmpty_iff, List.infix_nil]
  | cons name names ih =>
    rw [containsRun, Bool.or_eq_true, List.isPrefixOf_iff_prefix, ih, List.infix_cons_iff]

/-- A file that does not lie below the root is judged by the whole of its path. -/
private theorem foldersOf_of_not_below {root : Option Path} {path : Path}
    (h : ∀ r ∈ root, ∀ names, path ≠ r.append names) :
    foldersOf root path = path.parts.dropLast := by
  cases root with
  | none => rfl
  | some r =>
    have hnone : path.relativeTo? r = none := by
      rw [Option.eq_none_iff_forall_ne_some]
      exact fun q hq => h r rfl q.segments (Path.relativeTo?_eq_some_iff.mp hq).2
    rw [foldersOf, Path.under, hnone, Option.getD_none]

namespace Settings

variable {s : Settings} {root : Option Path} {path : Path} {text : String}

/-- A file is **exempt** if its name is, or if one of its folders is a skills folder. -/
def IsExempt (s : Settings) (root : Option Path) (path : Path) : Prop :=
  path.name ∈ s.exemptFilenames ∨ s.skillsSegment ∈ foldersOf root path

private theorem skips_eq_true_iff : s.skips root path = true ↔ s.IsExempt root path := by
  rw [skips, Bool.or_eq_true, List.contains_iff_mem, List.contains_iff_mem, IsExempt]

/-- A file **lacks frontmatter** if it has none and does not lie in the shared area. -/
def LacksFrontmatter (s : Settings) (root : Option Path) (path : Path) (text : String) : Prop :=
  block? defaultDelimiter text = none ∧ ¬ s.sharedRulesArea <:+: foldersOf root path

/-- The last line of a block about its patterns gives a text. -/
def EndsWithText (block : String) : Prop :=
  ∃ before value after, linesOf block = before ++ .scalar pathsKey value :: after ∧
    NoKeyLine pathsKey after

private theorem endsWithText_iff {block : String} :
    EndsWithText block ↔ ∃ value, (Metadata.parse block).get? pathsKey = some (.text value) := by
  simp only [get?_parse_eq_text_iff]
  exact exists_comm

/-- Without being strict only the shape of the patterns is looked at. -/
private theorem findings_of_lenient (hs : s.strict = false) (block : String) :
    s.findings block = Check.shapeFindings (Metadata.parse block) := by
  rw [findings_eq, hs]
  exact List.append_nil _

/-! ### What may be said -/

private theorem validate_of_exempt (h : s.IsExempt root path) : s.validate root path text = [] :=
  if_pos (skips_eq_true_iff.mpr h)

section Looked

variable (hexempt : ¬ s.IsExempt root path)

include hexempt

private theorem validate_of_lacksFrontmatter (h : s.LacksFrontmatter root path text) :
    s.validate root path text = [⟨path, .warning, "no frontmatter found"⟩] := by
  obtain ⟨hblock, hshared⟩ := h
  rw [s.validate_of_no_block root path (mt skips_eq_true_iff.mp hexempt) hblock]
  exact if_neg (mt containsRun_eq_true_iff.mp hshared)

private theorem validate_of_endsWithText (hs : s.strict = false) {block : String}
    (hblock : block? defaultDelimiter text = some block) (h : EndsWithText block) :
    s.validate root path text = [⟨path, .error, "'paths' must be an array"⟩] := by
  obtain ⟨value, hvalue⟩ := endsWithText_iff.mp h
  rw [s.validate_of_block root path (mt skips_eq_true_iff.mp hexempt) hblock,
    findings_of_lenient hs, Check.shapeFindings_of_text hvalue]
  rfl

/-- There is nothing else to say. -/
private theorem validate_of_neither (hs : s.strict = false)
    (hlacks : ¬ s.LacksFrontmatter root path text)
    (htext : ¬ ∃ block, block? defaultDelimiter text = some block ∧ EndsWithText block) :
    s.validate root path text = [] := by
  have hskip : ¬ s.skips root path = true := mt skips_eq_true_iff.mp hexempt
  cases hblock : block? defaultDelimiter text with
  | none =>
    have hshared : s.shares root path = true := by
      by_contra hno
      exact hlacks ⟨hblock, mt containsRun_eq_true_iff.mpr hno⟩
    rw [s.validate_of_no_block root path hskip hblock, if_pos hshared]
  | some block =>
    have hvalue : ∀ value, (Metadata.parse block).get? pathsKey ≠ some (.text value) :=
      fun value hvalue => htext ⟨block, hblock, endsWithText_iff.mpr ⟨value, hvalue⟩⟩
    rw [s.validate_of_block root path hskip hblock, findings_of_lenient hs,
      Check.shapeFindings_of_not_text (Metadata.parse_isPlain block) hvalue]
    rfl

end Looked

/-- **What lenient settings say about a file** is nothing, or one thing. An exempt file is passed
over. Any other file gets a warning if it lacks frontmatter, and an error if it has a block whose
last line about its patterns gives a text. The folders of a file below the root are those below the
root, and those of any other file are all the parts of its path but the last. -/
theorem lenient_verdict (hs : s.strict = false) (root : Option Path) (path : Path) (text : String) :
    (s.validate root path text = [] ∨
      s.validate root path text = [⟨path, .warning, "no frontmatter found"⟩] ∨
      s.validate root path text = [⟨path, .error, "'paths' must be an array"⟩]) ∧
    (s.IsExempt root path → s.validate root path text = []) ∧
    (s.validate root path text = [⟨path, .warning, "no frontmatter found"⟩] ↔
      ¬ s.IsExempt root path ∧ s.LacksFrontmatter root path text) ∧
    (s.validate root path text = [⟨path, .error, "'paths' must be an array"⟩] ↔
      ¬ s.IsExempt root path ∧
        ∃ block, block? defaultDelimiter text = some block ∧ EndsWithText block) ∧
    (∀ r names, root = some r → path = r.append names →
      foldersOf root path = names.dropLast) ∧
    ((∀ r ∈ root, ∀ names, path ≠ r.append names) →
      foldersOf root path = path.parts.dropLast) := by
  have hfolders : ∀ r names, root = some r → path = r.append names →
      foldersOf root path = names.dropLast := by
    rintro r names rfl rfl
    exact foldersOf_append r names
  by_cases hexempt : s.IsExempt root path
  · have h : s.validate root path text = [] := validate_of_exempt hexempt
    exact ⟨.inl h, fun _ => h, iff_of_false (by simp [h]) fun hno => hno.1 hexempt,
      iff_of_false (by simp [h]) fun hno => hno.1 hexempt, hfolders, foldersOf_of_not_below⟩
  rw [and_iff_right hexempt, and_iff_right hexempt]
  have hlooked : s.IsExempt root path → s.validate root path text = [] :=
    fun h => absurd h hexempt
  by_cases hlacks : s.LacksFrontmatter root path text
  · have h := validate_of_lacksFrontmatter hexempt hlacks
    refine ⟨.inr (.inl h), hlooked, iff_of_true h hlacks, iff_of_false (by simp [h]) ?_, hfolders,
      foldersOf_of_not_below⟩
    rintro ⟨block, hblock, -⟩
    exact Option.some_ne_none block (hblock.symm.trans hlacks.1)
  by_cases htext : ∃ block, block? defaultDelimiter text = some block ∧ EndsWithText block
  · obtain ⟨block, hblock, hends⟩ := htext
    have h := validate_of_endsWithText hexempt hs hblock hends
    exact ⟨.inr (.inr h), hlooked, iff_of_false (by simp [h]) hlacks,
      iff_of_true h ⟨block, hblock, hends⟩, hfolders, foldersOf_of_not_below⟩
  · have h := validate_of_neither hexempt hs hlacks htext
    exact ⟨.inl h, hlooked, iff_of_false (by simp [h]) hlacks, iff_of_false (by simp [h]) htext,
      hfolders, foldersOf_of_not_below⟩

/-- The last line about the patterns decides, and a file elsewhere may be shared by its whole
path. -/
theorem lenient_verdict_of_two_files :
    ({} : Settings).strict = false ∧
      validate {} (some (Path.ofString "configs")) (Path.ofString "/_shared/rules/a.md")
        "---\npaths:\n- b\npaths: c\n---" =
          [⟨Path.ofString "/_shared/rules/a.md", .error, "'paths' must be an array"⟩] ∧
      ¬ LacksFrontmatter {} (some (Path.ofString "configs")) (Path.ofString "/_shared/rules/a.md")
        "paths: c" := by
  have hexempt : ¬ IsExempt {} (some (Path.ofString "configs"))
      (Path.ofString "/_shared/rules/a.md") := by
    unfold IsExempt
    decide
  have htext : EndsWithText "paths:\n- b\npaths: c" :=
    ⟨[.openList "paths", .item "b"], "c", [], by rfl, List.forall_mem_nil _⟩
  have hverdict (text : String) := lenient_verdict (s := {}) rfl (some (Path.ofString "configs"))
    (Path.ofString "/_shared/rules/a.md") text
  refine ⟨rfl, ?_, fun hlacks => ?_⟩
  · obtain ⟨-, -, -, hshape, -⟩ := hverdict "---\npaths:\n- b\npaths: c\n---"
    exact hshape.mpr ⟨hexempt, _, by rfl, htext⟩
  · obtain ⟨-, -, hwarning, -⟩ := hverdict "paths: c"
    exact absurd (hwarning.mpr ⟨hexempt, hlacks⟩) (by decide)

end Settings

end Rulebook
