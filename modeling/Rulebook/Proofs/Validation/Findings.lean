import Rulebook.Proofs.Frontmatter.Entries
import Rulebook.Validation
import Mathlib.Data.Set.List

/-!
# What the checks demand

The metadata of a block is plain: a key has no value, a text, or a list of texts. On such metadata a
check can be said without its messages. Three of the checks **demand** something of the metadata and
find one error if it does not hold. The check on keys finds warnings only, one for each key that is
not known. The check on patterns looks at each of them.

**Main facts.** `findings_eq`: the findings about a block, check by check. `demands_shapeFindings`,
`demands_descriptionFindings` and `demands_activationFindings`: what three of the checks demand.
`freeOf_warning_unknownKeyFindings_iff`, `freeOf_error_pathPatterns_iff` and
`freeOf_warning_pathPatterns_iff`: what the other two find.
-/

namespace Rulebook

open Frontmatter

namespace Frontmatter.Metadata

variable {m : Metadata}

/-- On plain metadata a key has no value, a text, or a list of texts. -/
theorem IsPlain.get?_cases (hm : m.IsPlain) (key : String) :
    m.get? key = none ∨ (∃ s, m.get? key = some (.text s)) ∨
      ∃ texts : List String, m.get? key = some (.list (texts.map .text)) := by
  cases h : m.get? key with
  | none => exact .inl rfl
  | some value =>
    obtain ⟨k, hk⟩ := mem_of_get? h
    have hvalue : value.IsPlain := hm _ hk
    cases value with
    | text s => exact .inr (.inl ⟨s, rfl⟩)
    | list items =>
      have hitems : items ∈ Set.range (List.map Value.text) := by
        rw [Set.range_list_map]
        exact fun item hitem => (hvalue item hitem).imp fun s hs => hs.symm
      obtain ⟨texts, rfl⟩ := hitems
      exact .inr (.inr ⟨texts, rfl⟩)
    | _ => exact False.elim hvalue

private theorem contains_eq_true_iff {key : String} : m.contains key = true ↔ key ∈ m.keys :=
  isSome_get?_iff m key

end Frontmatter.Metadata

namespace Check

variable {m : Metadata}

/-- The findings of a check are those of making it. -/
private theorem findings_of_run {c : Check} {fs : List Finding} (hm : m.IsPlain)
    (h : c.run m = .ok fs) :
    c.findings m hm = fs :=
  Except.ok.inj ((run_eq_ok_findings hm c).symm.trans h)

/-! ### Errors and warnings -/

/-- Findings are **free of** a severity when none of them has it. -/
def FreeOf (severity : Severity) (fs : List Finding) : Prop :=
  ∀ f ∈ fs, f.severity ≠ severity

theorem freeOf_nil (severity : Severity) : FreeOf severity [] :=
  List.forall_mem_nil _

theorem freeOf_append {severity : Severity} {fs gs : List Finding} :
    FreeOf severity (fs ++ gs) ↔ FreeOf severity fs ∧ FreeOf severity gs :=
  List.forall_mem_append

/-- A finding that is made under a condition. -/
private theorem freeOf_ite {severity : Severity} {p : Prop} [Decidable p] {f : Finding} :
    FreeOf severity (if p then [f] else []) ↔ (p → f.severity ≠ severity) := by
  by_cases h : p
  · rw [if_pos h, imp_iff_right h]
    exact List.forall_mem_singleton
  · rw [if_neg h]
    exact iff_of_true (freeOf_nil severity) fun hp => absurd hp h

/-- There are no findings when there are neither errors nor warnings. -/
theorem eq_nil_iff_freeOf {fs : List Finding} :
    fs = [] ↔ FreeOf .error fs ∧ FreeOf .warning fs := by
  constructor
  · rintro rfl
    exact ⟨freeOf_nil _, freeOf_nil _⟩
  · rintro ⟨herror, hwarning⟩
    refine List.eq_nil_iff_forall_not_mem.mpr fun f hf => ?_
    cases h : f.severity with
    | error => exact herror f hf h
    | warning => exact hwarning f hf h

/-- Findings **demand** a property when there are none if it holds, and one error otherwise. -/
def Demands (p : Prop) (fs : List Finding) : Prop :=
  (p ∧ fs = []) ∨ (¬ p ∧ ∃ message, fs = [⟨.error, message⟩])

theorem Demands.freeOf_error_iff {p : Prop} {fs : List Finding} (h : Demands p fs) :
    FreeOf .error fs ↔ p := by
  rcases h with ⟨hp, rfl⟩ | ⟨hp, message, rfl⟩
  · exact iff_of_true (freeOf_nil _) hp
  · exact iff_of_false (fun h => h _ List.mem_cons_self rfl) hp

theorem Demands.freeOf_warning {p : Prop} {fs : List Finding} (h : Demands p fs) :
    FreeOf .warning fs := by
  rcases h with ⟨-, rfl⟩ | ⟨-, message, rfl⟩
  · exact freeOf_nil _
  · exact List.forall_mem_singleton.mpr Severity.noConfusion

/-! ### The shape of the patterns -/

/-- Patterns that are a single text are no list. -/
theorem shapeFindings_of_text {s : String} (h : m.get? pathsKey = some (.text s)) :
    shapeFindings m = [⟨.error, "'paths' must be an array"⟩] := by
  rw [shapeFindings, h]

theorem shapeFindings_of_not_text (hm : m.IsPlain) (h : ∀ s, m.get? pathsKey ≠ some (.text s)) :
    shapeFindings m = [] := by
  rw [shapeFindings]
  rcases hm.get?_cases pathsKey with hnone | ⟨s, hs⟩ | ⟨texts, htexts⟩
  · rw [hnone]
  · exact absurd hs (h s)
  · rw [htexts]
    dsimp only
    rw [List.filterMap_map]
    exact List.filterMap_eq_nil_iff.mpr fun _ _ => rfl

theorem demands_shapeFindings (hm : m.IsPlain) :
    Demands (∀ s, m.get? pathsKey ≠ some (.text s)) (shapeFindings m) := by
  by_cases h : ∀ s, m.get? pathsKey ≠ some (.text s)
  · exact .inl ⟨h, shapeFindings_of_not_text hm h⟩
  · obtain ⟨s, hs⟩ := not_forall_not.mp h
    exact .inr ⟨h, _, shapeFindings_of_text hs⟩

/-! ### Keys -/

theorem freeOf_error_unknownKeyFindings (known : List String) (m : Metadata) :
    FreeOf .error (unknownKeyFindings known m) := by
  intro f hf
  obtain ⟨key, -, rfl⟩ := List.mem_map.mp hf
  exact Severity.noConfusion

theorem freeOf_warning_unknownKeyFindings_iff {known : List String} :
    FreeOf .warning (unknownKeyFindings known m) ↔ ∀ key ∈ m.keys, key ∈ known := by
  rw [FreeOf, unknownKeyFindings, List.forall_mem_map, List.forall_mem_filter]
  refine forall₂_congr fun key _ => ?_
  rw [Bool.not_eq_true', ← Bool.not_eq_true, List.contains_iff_mem]
  exact ⟨fun h => not_not.mp fun hno => h hno rfl, fun h hno => absurd h hno⟩

/-! ### The description and the activation -/

/-- Metadata is **described** when its description is a list, or a text that is not blank. -/
def Described (m : Metadata) : Prop :=
  (∃ items, m.get? descriptionKey = some (.list items)) ∨
    ∃ s, m.get? descriptionKey = some (.text s) ∧ ∃ c ∈ s.toList, Text.isBlank c = false

theorem demands_descriptionFindings (hm : m.IsPlain) :
    Demands (Described m) (descriptionFindings m) := by
  rw [Demands, Described, descriptionFindings]
  rcases hm.get?_cases descriptionKey with h | ⟨s, h⟩ | ⟨texts, h⟩
  · rw [h]
    refine .inr ⟨?_, _, rfl⟩
    rintro (⟨items, hnone⟩ | ⟨s, hnone, -⟩) <;> exact Option.some_ne_none _ hnone.symm
  · rw [h]
    dsimp only
    by_cases hblank : Text.isBlankText s.toList = true
    · refine .inr ⟨?_, ?_⟩
      · rintro (⟨items, hlist⟩ | ⟨s', htext, c, hc, hnot⟩)
        · cases hlist
        · obtain rfl := Value.text.inj (Option.some.inj htext)
          rw [List.all_eq_true.mp hblank c hc] at hnot
          exact Bool.false_ne_true hnot.symm
      · split <;> exact ⟨_, rfl⟩
    · have hne : s ≠ "" := by
        rintro rfl
        exact hblank rfl
      refine .inl ⟨.inr ⟨s, rfl, ?_⟩, ?_⟩
      · simpa [Text.isBlankText] using hblank
      · rw [if_neg hne, if_neg hblank]
  · rw [h]
    exact .inl ⟨.inl ⟨_, rfl⟩, rfl⟩

/-- Metadata is **activated** when it has exactly one of the two keys that can do it. -/
def Activated (m : Metadata) : Prop :=
  pathsKey ∈ m.keys ↔ alwaysApplyKey ∉ m.keys

theorem demands_activationFindings (m : Metadata) :
    Demands (Activated m) (activationFindings m) := by
  rw [Demands, Activated, activationFindings, ← Metadata.contains_eq_true_iff,
    ← Metadata.contains_eq_true_iff]
  cases m.contains pathsKey <;> cases m.contains alwaysApplyKey <;> simp

/-! ### Patterns -/

variable {catchAll : List String}

/-- A pattern is a **root glob** when it is `*.` and word characters, and nothing else. -/
def IsRootGlob (pattern : List Char) : Prop :=
  ∃ word, word ≠ [] ∧ (∀ c ∈ word, Text.isWord c = true) ∧ pattern = '*' :: '.' :: word

/-- In a pattern without a line feed no line feed can be overlooked. -/
theorem isRootOnlyGlob_iff {pattern : List Char} (hline : '\n' ∉ pattern) :
    isRootOnlyGlob pattern = true ↔ IsRootGlob pattern := by
  unfold isRootOnlyGlob
  split
  · next rest =>
    have hrest : rest.getLast? ≠ some '\n' := fun hlast =>
      hline (List.mem_cons_of_mem _ (List.mem_cons_of_mem _ (List.mem_of_getLast? hlast)))
    rw [Text.dropFinalNewline, if_neg hrest, Text.isWordText, Bool.and_eq_true, Bool.not_eq_true',
      List.isEmpty_eq_false_iff, List.all_eq_true]
    constructor
    · rintro ⟨hne, hword⟩
      exact ⟨rest, hne, hword, rfl⟩
    · rintro ⟨word, hne, hword, heq⟩
      obtain ⟨-, heq⟩ := List.cons_eq_cons.mp heq
      obtain ⟨-, rfl⟩ := List.cons_eq_cons.mp heq
      exact ⟨hne, hword⟩
  · next hno =>
    refine iff_of_false Bool.false_ne_true ?_
    rintro ⟨word, -, -, heq⟩
    exact hno word heq

private theorem freeOf_error_patternFindings_iff {pattern : String} :
    FreeOf .error (patternFindings catchAll pattern) ↔ pattern ∉ catchAll := by
  rw [patternFindings, freeOf_append, freeOf_ite, freeOf_ite, List.contains_iff_mem]
  constructor
  · exact fun h hmem => h.1 hmem rfl
  · exact fun h => ⟨fun hmem => absurd hmem h, fun _ => Severity.noConfusion⟩

private theorem freeOf_warning_patternFindings_iff {pattern : String} :
    FreeOf .warning (patternFindings catchAll pattern) ↔
      ¬ isRootOnlyGlob pattern.toList = true := by
  rw [patternFindings, freeOf_append, freeOf_ite, freeOf_ite]
  constructor
  · exact fun h hglob => h.2 hglob rfl
  · exact fun h => ⟨fun _ => Severity.noConfusion, fun hglob => absurd hglob h⟩

private theorem texts?_map_text (texts : List String) : texts? (texts.map .text) = .ok texts := by
  induction texts with
  | nil => rfl
  | cons s texts ih =>
    rw [List.map_cons, texts?, ih]
    rfl

/-- Without a list of patterns there is nothing to find. -/
theorem findings_pathPatterns_of_not_list (hm : m.IsPlain)
    (h : ∀ items, m.get? pathsKey ≠ some (.list items)) :
    (pathPatterns catchAll).findings m hm = [] := by
  refine findings_of_run hm ?_
  rw [run, pathPatternFindings?]
  split
  · next hget => exact absurd hget (h _)
  · next hget => exact absurd hget (h _)
  · rfl

/-- A list of patterns may not be empty, and each of its patterns is looked at. -/
theorem findings_pathPatterns_of_list (hm : m.IsPlain) {patterns : List String}
    (h : m.get? pathsKey = some (.list (patterns.map .text))) :
    (pathPatterns catchAll).findings m hm =
      if patterns = [] then [emptyPathsFinding]
      else patterns.flatMap (patternFindings catchAll) := by
  refine findings_of_run hm ?_
  rw [run, pathPatternFindings?, h]
  cases patterns with
  | nil => rfl
  | cons pattern patterns =>
    change (texts? ((pattern :: patterns).map .text)).map _ = _
    rw [texts?_map_text, if_neg (List.cons_ne_nil _ _)]
    rfl

/-- There is an error about patterns if there are none, or if one is refused. -/
theorem freeOf_error_pathPatterns_iff (hm : m.IsPlain) {patterns : List String}
    (h : m.get? pathsKey = some (.list (patterns.map .text))) :
    FreeOf .error ((pathPatterns catchAll).findings m hm) ↔
      patterns ≠ [] ∧ ∀ pattern ∈ patterns, pattern ∉ catchAll := by
  rw [findings_pathPatterns_of_list hm h]
  split
  · next hnil => exact iff_of_false (fun hfree => hfree _ List.mem_cons_self rfl) fun h => h.1 hnil
  · next hne =>
    rw [FreeOf, List.forall_mem_flatMap, and_iff_right hne]
    exact forall₂_congr fun pattern _ => freeOf_error_patternFindings_iff

/-- There is a warning about patterns for each that matches at the root only. -/
theorem freeOf_warning_pathPatterns_iff (hm : m.IsPlain) {patterns : List String}
    (h : m.get? pathsKey = some (.list (patterns.map .text))) :
    FreeOf .warning ((pathPatterns catchAll).findings m hm) ↔
      ∀ pattern ∈ patterns, ¬ isRootOnlyGlob pattern.toList = true := by
  rw [findings_pathPatterns_of_list hm h]
  split
  · next hnil =>
    subst hnil
    exact iff_of_true (List.forall_mem_singleton.mpr Severity.noConfusion) (List.forall_mem_nil _)
  · rw [FreeOf, List.forall_mem_flatMap]
    exact forall₂_congr fun pattern _ => freeOf_warning_patternFindings_iff

end Check

namespace Settings

/-- The findings of strict settings that lenient ones do not have. -/
def strictFindings (s : Settings) (m : Metadata) (hm : m.IsPlain) : List Finding :=
  Check.unknownKeyFindings s.knownKeys m ++ Check.descriptionFindings m ++
    Check.activationFindings m ++ (Check.pathPatterns s.catchAllPatterns).findings m hm

/-- The findings about a block: those about the shape of its patterns, and then those of strict
settings. -/
theorem findings_eq (s : Settings) (block : String) :
    s.findings block =
      Check.shapeFindings (Metadata.parse block) ++
        if s.strict then strictFindings s (Metadata.parse block) (Metadata.parse_isPlain block)
        else [] := by
  have hm := Metadata.parse_isPlain block
  have hshape := Check.findings_of_run (c := .pathsShape) hm rfl
  have hunknown := Check.findings_of_run (c := .unknownKeys s.knownKeys) hm rfl
  have hdescription := Check.findings_of_run (c := .description) hm rfl
  have hactivation := Check.findings_of_run (c := .activation) hm rfl
  rw [findings, checks, List.flatMap_cons, hshape]
  cases s.strict with
  | false => rfl
  | true =>
    simp only [if_true, List.flatMap_cons, List.flatMap_nil, List.append_nil, hunknown,
      hdescription, hactivation, strictFindings, List.append_assoc]

end Settings

end Rulebook
