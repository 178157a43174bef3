import Rulebook.Report

/-!
# Counts and report lines

Results grow by records, one for each file. What is reported about them is told by the records: the
lines about diagnostics are theirs, and the counts are those of the records and of these lines.
Which counts are named decides the exit code, and more records never take an error back.

**Main facts.** `visited_recordAll` and `diagnostics_recordAll`: what records add up to.
`exists_startsWith_iff`: a line about a count is told from the lines about diagnostics by how it
starts. `report_agrees_with_records`: lines, counts and exit code by the records.
-/

namespace Rulebook

/-- A **record** is a file and what was found about it. -/
structure Record where
  path : Path
  found : List Diagnostic

/-! ### Adding records -/

namespace Results

/-- Adds records, one after the other. -/
def recordAll (r : Results) (records : List Record) : Results :=
  records.foldl (fun r record => r.record record.path record.found) r

private theorem recordAll_append (r : Results) (records more : List Record) :
    r.recordAll (records ++ more) = (r.recordAll records).recordAll more :=
  List.foldl_append

/-- Each record visits its file. -/
theorem visited_recordAll (r : Results) (records : List Record) :
    (r.recordAll records).visited = r.visited ++ records.map Record.path := by
  induction records generalizing r with
  | nil => exact (List.append_nil _).symm
  | cons record records ih =>
    rw [recordAll, List.foldl_cons, ← recordAll, ih, Results.record, List.map_cons,
      List.append_assoc, List.singleton_append]

/-- Each record adds what was found, in order. -/
theorem diagnostics_recordAll (r : Results) (records : List Record) :
    (r.recordAll records).diagnostics = r.diagnostics ++ records.flatMap Record.found := by
  induction records generalizing r with
  | nil => exact (List.append_nil _).symm
  | cons record records ih =>
    rw [recordAll, List.foldl_cons, ← recordAll, ih, Results.record, List.flatMap_cons,
      List.append_assoc]

/-! ### Counting -/

/-- A severity is counted when there is a diagnostic of it. -/
private theorem count_pos_iff {r : Results} {severity : Severity} :
    0 < r.count severity ↔ ∃ d ∈ r.diagnostics, d.severity = severity := by
  simp only [count, List.countP_pos_iff, decide_eq_true_eq]

/-- Every diagnostic is counted once. -/
private theorem count_error_add_count_warning (r : Results) :
    r.count .error + r.count .warning = r.diagnostics.length := by
  have hwarning : r.count .warning =
      r.diagnostics.countP fun d => ¬ (decide (d.severity = .error) = true) :=
    List.countP_congr fun d _ => by cases d.severity <;> simp
  rw [hwarning]
  exact (List.length_eq_countP_add_countP _).symm

/-- A severity is counted as often as lines bear its tag. -/
private theorem count_eq_countP_tag (r : Results) (root : Option Path) (severity : Severity) :
    r.count severity =
      (r.diagnostics.map (Diagnostic.line root)).countP fun l => l.tag = severity.tag := by
  have htag : ∀ d : Diagnostic, d.severity = severity ↔ (d.line root).tag = severity.tag := by
    intro d
    rw [Diagnostic.line]
    cases d.severity <;> cases severity <;> simp [Severity.tag]
  rw [count, List.countP_map]
  exact List.countP_congr fun d _ => by simpa using htag d

/-- Results are clean when there is no diagnostic. -/
private theorem isClean_iff {r : Results} : r.summary.isClean = true ↔ r.diagnostics = [] := by
  have hall := r.count_error_add_count_warning
  simp only [Summary.isClean, summary, Bool.and_eq_true, beq_iff_eq, ← List.length_eq_zero_iff]
  omega

/-- More diagnostics make no count less. -/
private theorem count_le_of_sublist {r r' : Results} (h : r'.diagnostics.Sublist r.diagnostics)
    (severity : Severity) : r'.count severity ≤ r.count severity :=
  h.countP_le

/-- Fewer diagnostics do not make an exit code greater. -/
theorem exitCode_le_of_sublist {r r' : Results}
    (h : r'.diagnostics.Sublist r.diagnostics) : r'.summary.exitCode ≤ r.summary.exitCode := by
  have hcount := count_le_of_sublist h .error
  by_cases herrors : r'.summary.errors > 0
  · have herrors' : r.summary.errors > 0 := by
      simp only [Results.summary] at herrors ⊢
      omega
    exact Nat.le_of_eq ((if_pos herrors).trans (if_pos herrors').symm)
  · rw [Summary.exitCode, if_neg herrors]
    exact Nat.zero_le _

end Results

/-- The exit code is 1 just when errors are counted. -/
private theorem Summary.exitCode_eq_one_iff {s : Summary} : s.exitCode = 1 ↔ 0 < s.errors := by
  rw [Summary.exitCode]
  split <;> simp [*]

/-! ### Lines about counts -/

/-- A line **starts with** a label when some text follows the label in it. -/
def OutputLine.StartsWith (l : OutputLine) (label : String) : Prop :=
  ∃ rest, l.text = label ++ rest

/-- The first character of a label is that of the line. -/
private theorem OutputLine.StartsWith.head? {l : OutputLine} {label : String}
    (h : l.StartsWith label)
    {c : Char} (hlabel : label.toList.head? = some c) : l.text.toList.head? = some c := by
  obtain ⟨rest, hrest⟩ := h
  rw [hrest, String.toList_append, List.head?_append, hlabel]
  rfl

/-- The line about a diagnostic starts with the mark of its severity. -/
private theorem head?_line (root : Option Path) (d : Diagnostic) :
    (d.line root).text.toList.head? = some '✗' ∨ (d.line root).text.toList.head? = some '⚠' := by
  rw [Diagnostic.line]
  cases d.severity with
  | error => exact .inl (by simp [Severity.glyph])
  | warning => exact .inr (by simp [Severity.glyph])

/-- The lines about counts. -/
theorem Summary.mem_lines_iff {s : Summary} {l : OutputLine} :
    l ∈ s.lines ↔ l = .blank ∨ l = ⟨.plain, "Files checked: " ++ toString s.filesChecked⟩ ∨
      (0 < s.errors ∧ l = ⟨.error, "Errors: " ++ toString s.errors⟩) ∨
      (0 < s.warnings ∧ l = ⟨.warning, "Warnings: " ++ toString s.warnings⟩) ∨
      (s.isClean = true ∧ l = ⟨.success, "✓ All rules are valid!"⟩) := by
  simp [Summary.lines]

namespace Summary

variable {s : Summary}

/-- How a line about counts starts says why it is there. -/
private theorem head?_of_mem_lines {l : OutputLine} (hl : l ∈ s.lines) :
    (l.text.toList.head? = some 'E' → 0 < s.errors) ∧
      (l.text.toList.head? = some 'W' → 0 < s.warnings) ∧
      (l.text.toList.head? = some '✓' → s.isClean = true) := by
  rcases mem_lines_iff.mp hl with rfl | rfl | ⟨h, rfl⟩ | ⟨h, rfl⟩ | ⟨h, rfl⟩
  · simp [OutputLine.blank]
  · simp
  all_goals simp [h]

private theorem exists_errors_line_iff :
    (∃ l ∈ s.lines, l.StartsWith "Errors: ") ↔ 0 < s.errors := by
  constructor
  · rintro ⟨l, hl, hstart⟩
    exact (head?_of_mem_lines hl).1 (hstart.head? (by decide))
  · exact fun h => ⟨_, mem_lines_iff.mpr (.inr (.inr (.inl ⟨h, rfl⟩))), _, rfl⟩

private theorem exists_warnings_line_iff :
    (∃ l ∈ s.lines, l.StartsWith "Warnings: ") ↔ 0 < s.warnings := by
  constructor
  · rintro ⟨l, hl, hstart⟩
    exact (head?_of_mem_lines hl).2.1 (hstart.head? (by decide))
  · exact fun h => ⟨_, mem_lines_iff.mpr (.inr (.inr (.inr (.inl ⟨h, rfl⟩)))), _, rfl⟩

private theorem exists_success_line_iff :
    (∃ l ∈ s.lines, l.StartsWith "✓ All rules are valid!") ↔ s.isClean = true := by
  constructor
  · rintro ⟨l, hl, hstart⟩
    exact (head?_of_mem_lines hl).2.2 (hstart.head? (by decide))
  · exact fun h => ⟨_, mem_lines_iff.mpr (.inr (.inr (.inr (.inr ⟨h, rfl⟩)))), "", rfl⟩

end Summary

/-- **A line about a count** is told from the lines about diagnostics by how it starts. -/
theorem Results.exists_startsWith_iff {r : Results} {root : Option Path} {label : String} {c : Char}
    (hlabel : label.toList.head? = some c) (herror : c ≠ '✗') (hwarning : c ≠ '⚠') :
    (∃ l ∈ r.report root, l.StartsWith label) ↔ ∃ l ∈ r.summary.lines, l.StartsWith label := by
  constructor
  · rintro ⟨l, hl, hstart⟩
    rcases List.mem_append.mp hl with hl | hl
    · obtain ⟨d, -, rfl⟩ := List.mem_map.mp hl
      have hfirst := hstart.head? hlabel
      rcases head?_line root d with h | h
      · exact absurd (Option.some.inj (hfirst.symm.trans h)) herror
      · exact absurd (Option.some.inj (hfirst.symm.trans h)) hwarning
    · exact ⟨l, hl, hstart⟩
  · rintro ⟨l, hl, hstart⟩
    exact ⟨l, List.mem_append_right _ hl, hstart⟩

/-! ### Reports of records -/

namespace Results

/-- The lines about the counts, by the counts. -/
private theorem lines_summary (r : Results) :
    r.summary.lines = .blank :: ⟨.plain, "Files checked: " ++ toString r.visited.length⟩ ::
      ((if r.count .error = 0 then [] else [⟨.error, "Errors: " ++ toString (r.count .error)⟩]) ++
        (if r.count .warning = 0 then []
          else [⟨.warning, "Warnings: " ++ toString (r.count .warning)⟩]) ++
        if r.diagnostics = [] then [⟨.success, "✓ All rules are valid!"⟩] else []) := by
  have hnamed (n : Nat) (l : OutputLine) :
      (if (n : Int) > 0 then [l] else []) = if n = 0 then [] else [l] := by
    cases n <;> simp
  have hclean (l : OutputLine) :
      (if r.summary.isClean = true then [l] else []) = if r.diagnostics = [] then [l] else [] := by
    simp only [isClean_iff]
  rw [Summary.lines, hclean, summary]
  dsimp only
  rw [hnamed, hnamed]
  rfl

end Results

/-- **A report agrees with its records.** It opens with one line for each diagnostic, in the order
in which they were recorded, and goes on with the counts: the number of records, and for each
severity the number of lines that bear its tag, which make up all the diagnostics. Errors are named
just when the exit code is 1, and that is when a record holds one; warnings just when a record holds
one; and the run is praised just when no record holds anything. More records make no count and no
exit code less, and do not make results clean. -/
theorem report_agrees_with_records (records : List Record) (root : Option Path) :
    let r := Results.recordAll {} records
    let found := records.flatMap Record.found
    let shown := found.map (Diagnostic.line root)
    let errors := shown.countP fun l => l.tag = .error
    let warnings := shown.countP fun l => l.tag = .warning
    r.report root = shown ++
      .blank :: ⟨.plain, "Files checked: " ++ toString records.length⟩ ::
        ((if errors = 0 then [] else [⟨.error, "Errors: " ++ toString errors⟩]) ++
          (if warnings = 0 then [] else [⟨.warning, "Warnings: " ++ toString warnings⟩]) ++
          if found = [] then [⟨.success, "✓ All rules are valid!"⟩] else []) ∧
    r.summary = ⟨records.length, warnings, errors⟩ ∧ errors + warnings = found.length ∧
    ((∃ l ∈ r.report root, l.StartsWith "Errors: ") ↔ r.summary.exitCode = 1) ∧
    (r.summary.exitCode = 1 ↔ ∃ record ∈ records, ∃ d ∈ record.found, d.severity = .error) ∧
    ((∃ l ∈ r.report root, l.StartsWith "Warnings: ") ↔
      ∃ record ∈ records, ∃ d ∈ record.found, d.severity = .warning) ∧
    ((∃ l ∈ r.report root, l.StartsWith "✓ All rules are valid!") ↔
      ∀ record ∈ records, record.found = []) ∧
    ∀ more : List Record,
      let r' := Results.recordAll {} (records ++ more)
      r.summary.filesChecked ≤ r'.summary.filesChecked ∧ r.summary.errors ≤ r'.summary.errors ∧
        r.summary.warnings ≤ r'.summary.warnings ∧ r.summary.exitCode ≤ r'.summary.exitCode ∧
        (r'.summary.isClean = true → r.summary.isClean = true) := by
  intro r found shown errors warnings
  have hvisited : r.visited = records.map Record.path := Results.visited_recordAll {} records
  have hfound : r.diagnostics = found := Results.diagnostics_recordAll {} records
  have hlength : r.visited.length = records.length := by rw [hvisited, List.length_map]
  have herrors : r.count .error = errors := by
    rw [r.count_eq_countP_tag root, hfound]
    rfl
  have hwarnings : r.count .warning = warnings := by
    rw [r.count_eq_countP_tag root, hfound]
    rfl
  have hheld (severity : Severity) : 0 < r.count severity ↔
      ∃ record ∈ records, ∃ d ∈ record.found, d.severity = severity := by
    rw [Results.count_pos_iff, hfound]
    constructor
    · rintro ⟨d, hd, h⟩
      obtain ⟨record, hrecord, hd⟩ := List.mem_flatMap.mp hd
      exact ⟨record, hrecord, d, hd, h⟩
    · rintro ⟨record, hrecord, d, hd, h⟩
      exact ⟨d, List.mem_flatMap.mpr ⟨record, hrecord, hd⟩, h⟩
  refine ⟨?_, ?_, ?_, ?_, ?_, ?_, ?_, fun more => ?_⟩
  · rw [Results.report, r.lines_summary, hfound, hlength, herrors, hwarnings]
  · rw [Results.summary, hlength, herrors, hwarnings]
  · rw [← herrors, ← hwarnings, r.count_error_add_count_warning, hfound]
  · rw [Results.exists_startsWith_iff (c := 'E') (by decide) (by decide) (by decide),
      Summary.exists_errors_line_iff, Summary.exitCode_eq_one_iff]
  · rw [Summary.exitCode_eq_one_iff, ← hheld]
    exact Int.natCast_pos
  · rw [Results.exists_startsWith_iff (c := 'W') (by decide) (by decide) (by decide),
      Summary.exists_warnings_line_iff, ← hheld]
    exact Int.natCast_pos
  · rw [Results.exists_startsWith_iff (c := '✓') (by decide) (by decide) (by decide),
      Summary.exists_success_line_iff, Results.isClean_iff, hfound, List.flatMap_eq_nil_iff]
  · intro r'
    have hmore : r' = r.recordAll more := Results.recordAll_append {} records more
    have hsub : r.diagnostics.Sublist r'.diagnostics := by
      rw [hmore, r.diagnostics_recordAll more]
      exact List.sublist_append_left _ _
    have hfiles : r.visited.length ≤ r'.visited.length := by
      rw [hmore, r.visited_recordAll more, List.length_append]
      exact Nat.le_add_right _ _
    refine ⟨Int.ofNat_le.mpr hfiles, Int.ofNat_le.mpr (Results.count_le_of_sublist hsub .error),
      Int.ofNat_le.mpr (Results.count_le_of_sublist hsub .warning),
      Results.exitCode_le_of_sublist hsub, fun hclean => ?_⟩
    rw [Results.isClean_iff] at hclean ⊢
    exact List.sublist_nil.mp (hclean ▸ hsub)

end Rulebook
