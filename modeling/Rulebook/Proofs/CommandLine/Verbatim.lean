import Rulebook.Proofs.CommandLine.Composition
import Rulebook.Proofs.Report.Counts
import Rulebook.Proofs.Text.Emoji

/-!
# What a command shows of its lines

A console without colour writes a line as it is, but for emoji codes. So the lines of a run show the
paths and messages that they are about just when no code stands in them. A path is followed by a
colon in the line about a diagnostic, and that colon may be the second one of a code.

The lines that a console changes lose colons, and no line gains any. That is why it can be seen in
the whole output whether one of its lines was changed.

**Main facts.** `Console.line_eq_iff` for one line; `lines_are_shown_as_they_are_but_for_codes` for
all that a command writes, and for paths that are told apart.
-/

namespace Rulebook

open Text

/-! ### One line -/

namespace Console

/-- A text is **plain** if it has no tab, and no control character that is dropped. -/
def IsPlain (text : List Char) : Prop :=
  ∀ x ∈ text, x ≠ '\t' ∧ isDropped x = false

instance (text : List Char) : Decidable (IsPlain text) :=
  List.decidableBAll _ text

private theorem count_expandTabsFrom (column : Nat) (s : List Char) :
    (expandTabsFrom column s).count ':' = s.count ':' := by
  induction s generalizing column with
  | nil => rfl
  | cons c s ih =>
    rw [expandTabsFrom]
    split
    · next hc =>
      subst hc
      rw [List.count_append, List.count_replicate, ih, List.count_cons_of_ne (by decide)]
      exact Nat.zero_add _
    · rw [List.count_cons, List.count_cons, ih]

/-- Expanding the tabs of lines keeps their colons. -/
private theorem count_unlines_expandTabs (ls : List (List Char)) :
    (unlines (ls.map expandTabs)).count ':' = (unlines ls).count ':' := by
  induction ls with
  | nil => rfl
  | cons l ls ih =>
    by_cases hls : ls = []
    · subst hls
      exact count_expandTabsFrom 0 l
    · rw [List.map_cons, unlines_cons _ (mt List.map_eq_nil_iff.mp hls), unlines_cons l hls,
        List.count_append, List.count_append, List.count_cons, List.count_cons, ih, expandTabs,
        count_expandTabsFrom]

variable [EmojiTable] {c : Console}

/-- A console without colour writes the colons that are left when codes have been replaced. -/
private theorem count_write (hc : c.color = false) (tag : LineTag) (text : List Char) :
    (c.write tag text).count ':' = (replaceEmoji text).count ':' := by
  rw [write_eq hc, List.count_append, shownLines, count_unlines_expandTabs, unlines_lines,
    List.count_filter (by decide)]
  rfl

/-- **A line is written as it is** just when it holds no code. -/
theorem write_eq_iff (hc : c.color = false) {text : List Char} (hplain : IsPlain text)
    (tag : LineTag) : c.write tag text = text ++ ['\n'] ↔ ¬ HoldsCode text := by
  constructor
  · intro heq hholds
    have hcount := count_write hc tag text
    rw [heq, List.count_append] at hcount
    exact absurd hcount.symm (Nat.ne_of_lt (count_replaceEmoji_lt hholds))
  · intro hfree
    exact write_of_replaceEmoji_eq hc (replaceEmoji_eq_self_iff.mpr hfree)
      (fun htab => (hplain _ htab).1 rfl) (fun x hx => (hplain x hx).2) tag

theorem line_eq_iff (hc : c.color = false) {l : OutputLine} (hplain : IsPlain l.text.toList) :
    c.line l = l.text ++ "\n" ↔ ¬ HoldsCode l.text.toList := by
  rw [← write_eq_iff hc hplain l.tag, line, ← String.toList_inj, String.toList_ofList,
    String.toList_append]
  exact Iff.rfl

/-! ### Many lines -/

/-- No line gains colons, and one that holds a code loses some. -/
private theorem count_line (hc : c.color = false) (l : OutputLine) :
    (c.line l).toList.count ':' ≤ l.text.toList.count ':' ∧
      (HoldsCode l.text.toList → (c.line l).toList.count ':' < l.text.toList.count ':') := by
  rw [line, String.toList_ofList, count_write hc]
  exact ⟨count_replaceEmojiFrom_le none _, count_replaceEmoji_lt⟩

private theorem count_lines_le (hc : c.color = false) (ls : List OutputLine) :
    (String.join (ls.map c.line)).toList.count ':' ≤
      (String.join (ls.map fun l => l.text ++ "\n")).toList.count ':' := by
  induction ls with
  | nil => rw [List.map_nil, List.map_nil]
  | cons l ls ih =>
    have hl := (count_line hc l).1
    simp only [List.map_cons, String.join_cons, String.toList_append, List.count_append] at ih ⊢
    omega

/-- **Lines are written as they are** just when none of them holds a code. -/
theorem lines_eq_iff (hc : c.color = false) {ls : List OutputLine}
    (hplain : ∀ l ∈ ls, IsPlain l.text.toList) :
    String.join (ls.map c.line) = String.join (ls.map fun l => l.text ++ "\n") ↔
      ∀ l ∈ ls, ¬ HoldsCode l.text.toList := by
  induction ls with
  | nil => exact iff_of_true (by rw [List.map_nil, List.map_nil]) (List.forall_mem_nil _)
  | cons l ls ih =>
    obtain ⟨hl, hls⟩ := List.forall_mem_cons.mp hplain
    rw [List.map_cons, List.map_cons, String.join_cons, String.join_cons, List.forall_mem_cons]
    by_cases hholds : HoldsCode l.text.toList
    · refine iff_of_false (fun heq => ?_) fun h => h.1 hholds
      -- the colons that the first line loses are missed in the whole
      have hcount := congrArg (fun s : String => s.toList.count ':') heq
      have hfirst := (count_line hc l).2 hholds
      have hrest := count_lines_le hc ls
      simp only [String.toList_append, List.count_append] at hcount hfirst hrest
      omega
    · rw [(line_eq_iff hc hl).mpr hholds, String.append_right_inj, ih hls]
      exact (and_iff_right hholds).symm

/-- Lines that hold no codes are told apart by their texts. -/
private theorem text_eq_of_line_eq (hc : c.color = false) {l l' : OutputLine}
    (hplain : IsPlain l.text.toList) (hplain' : IsPlain l'.text.toList)
    (hfree : ¬ HoldsCode l.text.toList) (hfree' : ¬ HoldsCode l'.text.toList)
    (heq : c.line l = c.line l') : l.text = l'.text := by
  rw [(line_eq_iff hc hplain).mpr hfree, (line_eq_iff hc hplain').mpr hfree'] at heq
  exact String.append_left_inj _ |>.mp heq

end Console

/-! ### The lines of a run -/

/-- The line about a file in a verbose run. -/
def Observation.line (root : Option Path) (o : Observation) : OutputLine :=
  ⟨.dim, "  " ++ (if o.skipped then "skipped" else "checked") ++ " " ++ o.path.display root⟩

private theorem toList_text_observationLine (root : Option Path) (o : Observation) :
    (o.line root).text.toList =
      (if o.skipped then "  skipped" else "  checked").toList ++
        ' ' :: (o.path.display root).toList := by
  rw [Observation.line]
  cases o.skipped <;> simp

private theorem toList_text_diagnosticLine (root : Option Path) (d : Diagnostic) :
    (d.line root).text.toList =
      d.severity.glyph.toList ++ ' ' :: ((d.path.display root).toList ++ [':'] ++
        ' ' :: d.message.toList) := by
  simp [Diagnostic.line]

/-- Lines about different files are different. -/
private theorem display_eq_of_observationLine_eq {root : Option Path} {o o' : Observation}
    (h : (o.line root).text = (o'.line root).text) :
    o.path.display root = o'.path.display root := by
  have htext := congrArg String.toList h
  rw [toList_text_observationLine, toList_text_observationLine] at htext
  -- both verbs are of the same length
  have hlength : ∀ skipped : Bool,
      (if skipped then "  skipped" else "  checked").toList.length = 9 := by decide
  have htail := List.append_inj_right htext ((hlength o.skipped).trans (hlength o'.skipped).symm)
  exact String.toList_inj.mp (List.cons_eq_cons.mp htail).2

/-- Lines with the same message about different paths are different. -/
private theorem display_eq_of_diagnosticLine_eq {root : Option Path} {d d' : Diagnostic}
    (hmessage : d.message = d'.message) (h : (d.line root).text = (d'.line root).text) :
    d.path.display root = d'.path.display root := by
  have htext := congrArg String.toList h
  rw [toList_text_diagnosticLine, toList_text_diagnosticLine, hmessage] at htext
  have hlength : ∀ severity : Severity, severity.glyph.toList.length = 1 := by
    intro severity
    cases severity <;> decide
  have htail := List.append_inj_right htext ((hlength d.severity).trans (hlength d'.severity).symm)
  have hpath := List.append_cancel_right (List.cons_eq_cons.mp htail).2
  exact String.toList_inj.mp (List.append_cancel_right hpath)

section

variable [EmojiTable]

/-- The line about a file holds a code when its path does. -/
private theorem holdsCode_observationLine {root : Option Path} {o : Observation} :
    HoldsCode (o.line root).text.toList ↔ HoldsCode (o.path.display root).toList := by
  have hverb : ¬ HoldsCode (if o.skipped then "  skipped" else "  checked").toList := by
    cases o.skipped <;> exact fun h => absurd h.two_le_count (by decide)
  rw [toList_text_observationLine, holdsCode_append_cons_blank (by decide), or_iff_right hverb]

/-- The line about a diagnostic holds a code when its path with the colon behind it does, or its
message. -/
private theorem holdsCode_diagnosticLine {root : Option Path} {d : Diagnostic} :
    HoldsCode (d.line root).text.toList ↔
      HoldsCode ((d.path.display root).toList ++ [':']) ∨ HoldsCode d.message.toList := by
  have hglyph : ¬ HoldsCode d.severity.glyph.toList := by
    cases d.severity <;> exact fun h => absurd h.two_le_count (by decide)
  rw [toList_text_diagnosticLine, holdsCode_append_cons_blank (by decide), or_iff_right hglyph,
    holdsCode_append_cons_blank (by decide)]

omit [EmojiTable] in
private theorem colon_notMem_toString (n : Int) : ':' ∉ (toString n).toList := by
  have hdigits : ∀ m : Nat, ':' ∉ m.repr.toList := by
    intro m hmem
    rw [Nat.toList_repr] at hmem
    exact absurd (Nat.isDigit_of_mem_toDigits (by decide) (by decide) hmem) (by decide)
  rw [Int.toString_eq_repr]
  cases n with
  | ofNat m => exact hdigits m
  | negSucc m =>
    rw [Int.repr, String.toList_append]
    exact List.not_mem_append (by decide) (hdigits _)

/-- The lines about counts hold no codes. -/
private theorem not_holdsCode_of_mem_lines {s : Summary} {l : OutputLine} (hl : l ∈ s.lines) :
    ¬ HoldsCode l.text.toList := by
  intro h
  have hcount := h.two_le_count
  have hlabel : ∀ (label : String) (n : Int), label.toList.count ':' = 1 →
      (label ++ toString n).toList.count ':' = 1 := by
    intro label n hlabel
    rw [String.toList_append, List.count_append, hlabel,
      List.count_eq_zero.mpr (colon_notMem_toString n)]
  rcases Summary.mem_lines_iff.mp hl with rfl | rfl | ⟨-, rfl⟩ | ⟨-, rfl⟩ | ⟨-, rfl⟩
  · exact absurd hcount (by decide)
  · rw [hlabel _ _ (by decide)] at hcount
    exact absurd hcount (by decide)
  · rw [hlabel _ _ (by decide)] at hcount
    exact absurd hcount (by decide)
  · rw [hlabel _ _ (by decide)] at hcount
    exact absurd hcount (by decide)
  · exact absurd hcount (by decide)

end

namespace CommandLine

section

variable [EmojiTable]

namespace Task

/-- The lines that a run writes behind its header. -/
def lines (task : Task) (outcome : Run.Outcome) : List OutputLine :=
  (if task.verbose then outcome.observed.map (Observation.line (some task.rootPath)) else []) ++
    match outcome.results with
    | .ok r => r.report (some task.rootPath) ++ [.blank]
    | .error _ => []

/-- What a run writes is its header and its lines. -/
private theorem stdout_outputWith (t : FileTree) (task : Task) (s : Settings) :
    (task.outputWith t s).stdout =
      ({} : Console).header task.rootPath task.verbose ++
        String.join ((task.lines (task.outcome t s)).map ({} : Console).line) := by
  have htraces : ∀ observed : List Observation, task.traces observed =
      String.join ((if task.verbose then
        observed.map (Observation.line (some task.rootPath)) else []).map ({} : Console).line) := by
    intro observed
    rw [traces]
    split
    · rw [List.map_map]
      rfl
    · rfl
  have houtcome : (task.adjust s).run t task.rootPath = task.outcome t s := rfl
  rw [outputWith, houtcome, lines, List.map_append, String.join_append, htraces]
  cases (task.outcome t s).results with
  | ok r => exact String.append_assoc
  | error p => simp [Output.fatal, Output.failure, header]

/-- The lines of a run hold no codes when the paths and messages that it tells about do not. -/
private theorem forall_mem_lines_iff (task : Task) (outcome : Run.Outcome) :
    (∀ l ∈ task.lines outcome, ¬ HoldsCode l.text.toList) ↔
      (task.verbose = true →
        ∀ o ∈ outcome.observed, ¬ HoldsCode (o.path.display (some task.rootPath)).toList) ∧
      ∀ r, outcome.results = .ok r → ∀ d ∈ r.diagnostics,
        ¬ HoldsCode ((d.path.display (some task.rootPath)).toList ++ [':']) ∧
          ¬ HoldsCode d.message.toList := by
  rw [lines, List.forall_mem_append]
  refine and_congr ?_ ?_
  · cases task.verbose with
    | false => exact iff_of_true (List.forall_mem_nil _) fun h => absurd h Bool.false_ne_true
    | true =>
      simp only [if_true, List.forall_mem_map, holdsCode_observationLine, true_imp_iff]
  · cases outcome.results with
    | error p => exact iff_of_true (List.forall_mem_nil _) fun r hr => absurd hr (by simp)
    | ok r =>
      have hdiagnostics : (∀ l ∈ r.report (some task.rootPath) ++ [.blank],
          ¬ HoldsCode l.text.toList) ↔
            ∀ d ∈ r.diagnostics, ¬ HoldsCode (d.line (some task.rootPath)).text.toList := by
        rw [Results.report, List.forall_mem_append, List.forall_mem_append, List.forall_mem_map]
        refine ⟨fun h => h.1.1, fun h => ⟨⟨h, fun l hl => not_holdsCode_of_mem_lines hl⟩, ?_⟩⟩
        exact List.forall_mem_singleton.mpr fun h => absurd h.two_le_count (by decide)
      simp only [hdiagnostics, holdsCode_diagnosticLine, not_or, Except.ok.injEq, forall_eq']

end Task

/-! ### A whole command -/

/-- A command that does not come to a run writes no lines: it shows help, or nothing. -/
private theorem stdout_of_no_run {t : FileTree} {args : List String} {output : Output}
    (hrun : run t args = .ok output)
    (hnone : ∀ task s, Request.read t args = .ok (.lint task) → task.missingConfig? t = none →
      Settings.load t (some task.configPath) ≠ .ok s) :
    output.stdout = page helpLines ∨ output.stdout = "" := by
  cases hread : Request.read t args with
  | error e =>
    rw [run, hread] at hrun
    exact .inr (Except.ok.inj hrun ▸ rfl)
  | ok request =>
    cases request with
    | help =>
      rw [run, hread] at hrun
      exact .inl (Except.ok.inj hrun ▸ rfl)
    | lint task =>
      rw [run_of_lint hread] at hrun
      cases hmissing : task.missingConfig? t with
      | some path =>
        rw [Task.perform_of_missing (Host.refusalAt?_tree t _) hmissing] at hrun
        exact .inr (Except.ok.inj hrun ▸ rfl)
      | none =>
        cases hload : Settings.load t (some task.configPath) with
        | ok s => exact absurd hload (hnone task s hread hmissing)
        | error failure =>
          by_cases hproblem : ∃ p, failure = .problem p
          · obtain ⟨p, rfl⟩ := hproblem
            rw [Task.perform_of_problem (Host.refusalAt?_tree t _) hmissing hload] at hrun
            exact .inr (Except.ok.inj hrun ▸ rfl)
          · have hne : ∀ p, failure ≠ .problem p := fun p hp => hproblem ⟨p, hp⟩
            rw [Task.perform_of_failure (Host.refusalAt?_tree t _) hmissing hne hload] at hrun
            cases hrun

/-- **Lines are shown as they are but for emoji codes.** A console without colour writes a plain
line of any tag as it is just when the line holds no code. So behind its header a run shows all its
lines as they are just when no path in a line about a file holds a code, and no path in a line about
a diagnostic, with the colon behind it, and no message holds one; and a command that comes to no run
shows no lines. Where no codes are held, lines about different paths are different. -/
theorem lines_are_shown_as_they_are_but_for_codes :
    (∀ (c : Console) (l : OutputLine), c.color = false → Console.IsPlain l.text.toList →
      (c.line l = l.text ++ "\n" ↔ ¬ HoldsCode l.text.toList)) ∧
    (∀ (t : FileTree) (args : List String) (task : Task) (s : Settings),
      Request.read t args = .ok (.lint task) → task.missingConfig? t = none →
      Settings.load t (some task.configPath) = .ok s →
        let outcome := task.outcome t s
        let root := some task.rootPath
        ∃ output, run t args = .ok output ∧
          ((∀ l ∈ task.lines outcome, Console.IsPlain l.text.toList) →
            (output.stdout = ({} : Console).header task.rootPath task.verbose ++
                String.join ((task.lines outcome).map fun l => l.text ++ "\n") ↔
              (task.verbose = true →
                ∀ o ∈ outcome.observed, ¬ HoldsCode (o.path.display root).toList) ∧
              ∀ r, outcome.results = .ok r → ∀ d ∈ r.diagnostics,
                ¬ HoldsCode ((d.path.display root).toList ++ [':']) ∧
                  ¬ HoldsCode d.message.toList))) ∧
    (∀ (t : FileTree) (args : List String) (output : Output), run t args = .ok output →
      (∀ task s, Request.read t args = .ok (.lint task) → task.missingConfig? t = none →
        Settings.load t (some task.configPath) ≠ .ok s) →
      output.stdout = page helpLines ∨ output.stdout = "") ∧
    ∀ (c : Console) (root : Option Path), c.color = false →
      (∀ o o' : Observation,
        Console.IsPlain (o.line root).text.toList → Console.IsPlain (o'.line root).text.toList →
        ¬ HoldsCode (o.line root).text.toList → ¬ HoldsCode (o'.line root).text.toList →
        o.path.display root ≠ o'.path.display root → c.line (o.line root) ≠ c.line (o'.line root)) ∧
      ∀ d d' : Diagnostic,
        Console.IsPlain (d.line root).text.toList → Console.IsPlain (d'.line root).text.toList →
        ¬ HoldsCode (d.line root).text.toList → ¬ HoldsCode (d'.line root).text.toList →
        d.message = d'.message → d.path.display root ≠ d'.path.display root →
        c.line (d.line root) ≠ c.line (d'.line root) := by
  refine ⟨fun c l hc hplain => Console.line_eq_iff hc hplain, ?_,
    fun t args output hrun hnone => stdout_of_no_run hrun hnone, ?_⟩
  · intro t args task s htask hmissing hload outcome root
    refine ⟨task.outputWith t s, ?_, fun hplain => ?_⟩
    · rw [run_of_lint htask, Task.perform_of_load (Host.refusalAt?_tree t _) hmissing hload]
      exact Task.start_of_not_refused (Host.refusalAt?_tree t _)
    · rw [Task.stdout_outputWith, String.append_right_inj, Console.lines_eq_iff rfl hplain,
        Task.forall_mem_lines_iff]
  · intro c root hc
    refine ⟨fun o o' hplain hplain' hfree hfree' hne heq => hne ?_,
      fun d d' hplain hplain' hfree hfree' hmessage hne heq => hne ?_⟩
    · exact display_eq_of_observationLine_eq
        (Console.text_eq_of_line_eq hc hplain hplain' hfree hfree' heq)
    · exact display_eq_of_diagnosticLine_eq hmessage
        (Console.text_eq_of_line_eq hc hplain hplain' hfree hfree' heq)

end

attribute [local instance] crossMark

/-- A verbose run over a file whose name looks like a code, but no emoji has the name: all is shown
as it is. -/
theorem lines_are_shown_as_they_are_of_unknown_code :
    ∃ output, run (({} : FileTree).putFile ⟨.current, ["configs", "a:y:.md"]⟩ [])
        ["-v", "--root", "configs"] = .ok output ∧
      output.stdout = ({} : Console).header ⟨.current, ["configs"]⟩ true ++
        String.join (["  checked a:y:.md", "⚠ a:y:.md: no frontmatter found", "",
          "Files checked: 1", "Warnings: 1", ""].map fun line => line ++ "\n") := by
  generalize hpath : (⟨.current, ["configs", "a:y:.md"]⟩ : Path) = path
  generalize ht : ({} : FileTree).putFile path [] = t
  generalize htask : (⟨some "configs", none, none, true⟩ : Task) = task
  have hread : Request.read t ["-v", "--root", "configs"] = .ok (.lint task) := by
    subst htask ht hpath
    rfl
  have hmissing : task.missingConfig? t = none := by
    subst htask
    rfl
  have hload : Settings.load t (some task.configPath) = .ok {} := by
    subst htask ht hpath
    rfl
  have hobserved : (task.outcome t {}).observed = [⟨path, false⟩] := by
    subst htask ht hpath
    rfl
  have hresults : (task.outcome t {}).results =
      .ok ⟨[path], [⟨path, .warning, "no frontmatter found"⟩]⟩ := by
    subst htask ht hpath
    rfl
  have hlines : task.lines (task.outcome t {}) =
      [⟨.dim, "  checked a:y:.md"⟩, ⟨.warning, "⚠ a:y:.md: no frontmatter found"⟩, .blank,
        ⟨.plain, "Files checked: 1"⟩, ⟨.warning, "Warnings: 1"⟩, .blank] := by
    subst htask ht hpath
    rfl
  have hdisplay : path.display (some task.rootPath) = "a:y:.md" := by
    subst htask hpath
    rfl
  obtain ⟨output, hrun, hshown⟩ :=
    lines_are_shown_as_they_are_but_for_codes.2.1 t _ task {} hread hmissing hload
  refine ⟨output, hrun, ?_⟩
  have hplain : ∀ l ∈ task.lines (task.outcome t {}), Console.IsPlain l.text.toList := by
    rw [hlines]
    decide
  have hstdout := (hshown hplain).mpr ⟨fun _ o ho => ?_, fun r hr d hd => ?_⟩
  · rw [hstdout, hlines]
    subst htask
    rfl
  · rw [hobserved, List.mem_singleton] at ho
    rw [ho, hdisplay]
    decide +kernel
  · obtain rfl := Except.ok.inj (hresults.symm.trans hr)
    obtain rfl := List.mem_singleton.mp hd
    rw [hdisplay]
    dsimp only
    decide +kernel

/-- An emoji code in the name of a file is shown as the emoji, and so is the emoji itself. -/
theorem code_in_path_is_shown_as_emoji :
    [":x:.md", "❌.md"].map (fun name =>
        run (({} : FileTree).putFile ⟨.current, ["configs", name]⟩ []) ["--root", "configs"]) =
      List.replicate 2 (.ok ⟨0, String.join (["", "Validating rule files...", "",
        "⚠ ❌.md: no frontmatter found", "", "Files checked: 1", "Warnings: 1", ""].map fun line =>
          line ++ "\n"), ""⟩) := by
  rw [List.map_cons, List.map_cons, List.map_nil]
  refine congrArg₂ _ ?_ (congrArg₂ _ ?_ rfl)
  · rfl
  · rfl

end CommandLine

end Rulebook
