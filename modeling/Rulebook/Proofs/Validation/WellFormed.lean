import Rulebook.Proofs.Frontmatter.KeyLines
import Rulebook.Proofs.Frontmatter.Spelling
import Rulebook.Proofs.Validation.Findings
import Rulebook.Proofs.Validation.Verdict

/-!
# What a strict run accepts

Five checks look at the metadata of a rule, each at its own part of it, and some of them at the same
key. `WellFormed` and `Unsuspicious` say what they amount to together: which metadata has no errors,
and which has no warnings.

**Main fact.** `strict_validation_accepts_wellFormed`: strict settings find no error in a file just
when its metadata is well-formed, and nothing at all just when it is unsuspicious as well.

The check on the shape of the patterns and the check on the patterns only make sense together: what
one of them passes over, the other looks at (`freeOf_error_patternChecks_iff`). A root glob may be
followed by a line feed for the check, but not for `IsRootGlob`. That makes no difference, since the
items of a block are parts of lines (`notMem_of_get?_parse`).
-/

namespace Rulebook

open Frontmatter

/-! ### Items of a block -/

/-- No item of a block holds a line feed. -/
theorem Frontmatter.notMem_of_get?_parse {block key : String} {items : List String}
    (h : (Metadata.parse block).get? key = some (.list (items.map .text))) :
    ∀ item ∈ items, '\n' ∉ item.toList := by
  intro item hitem hline
  obtain ⟨before, after, hblock, -, hitems⟩ := get?_parse_eq_list_iff.mp h
  have htext : Value.text item ∈ itemsUpToList after := hitems ▸ List.mem_map_of_mem hitem
  obtain ⟨_, hmem, heq⟩ := List.mem_map.mp htext
  obtain rfl := Value.text.inj heq
  obtain ⟨l, hl, hvalue⟩ := List.mem_filterMap.mp hmem
  -- the line that is this item is one of the block
  have hlines : l ∈ linesOf block := by
    rw [hblock]
    exact List.mem_append_right _
      (List.mem_cons_of_mem _ ((List.takeWhile_sublist _).subset hl))
  obtain ⟨line, hline', rfl⟩ := List.mem_map.mp hlines
  have hno : '\n' ∉ line := Text.newline_notMem_of_mem_lines hline'
  cases hclass : Line.classify line with
  | item value =>
    rw [hclass] at hvalue
    obtain rfl := Option.some.inj hvalue
    exact hno (((classify_eq_iff_spells hno).mp hclass).mem_of_item hline)
  | _ =>
    rw [hclass] at hvalue
    exact Option.some_ne_none _ hvalue.symm

/-! ### Well-formed metadata -/

/-- Patterns are **usable** when they are a list that is not empty, and none of them is refused. -/
def Usable (catchAll : List String) (value : Value) : Prop :=
  ∃ patterns : List String, value = .list (patterns.map .text) ∧ patterns ≠ [] ∧
    ∀ pattern ∈ patterns, pattern ∉ catchAll

/-- Metadata is **well-formed** when it is described and activated, and its patterns are usable if
there are any. -/
structure WellFormed (s : Settings) (m : Metadata) : Prop where
  /-- The description is a list, or a text that is not blank. -/
  described : Check.Described m
  /-- There is exactly one of the two keys that activate a rule. -/
  activated : Check.Activated m
  /-- The patterns are a list that is not empty, and none of them is refused. -/
  usable : ∀ value, m.get? pathsKey = some value → Usable s.catchAllPatterns value

/-- Metadata is **unsuspicious** when its keys are known and none of its patterns is a root glob. -/
structure Unsuspicious (s : Settings) (m : Metadata) : Prop where
  /-- Every key is known. -/
  known : ∀ key ∈ m.keys, key ∈ s.knownKeys
  /-- No pattern is `*.` and word characters. -/
  narrow : ∀ patterns : List String, m.get? pathsKey = some (.list (patterns.map .text)) →
    ∀ pattern ∈ patterns, ¬ Check.IsRootGlob pattern.toList

namespace Check

variable {m : Metadata} (catchAll : List String)

private theorem injective_map_text :
    Function.Injective fun texts : List String => Value.list (texts.map .text) := by
  intro texts others heq
  have htext : Function.Injective Value.text := fun _ _ => Value.text.inj
  exact htext.list_map (Value.list.inj heq)

/-- What one of the checks on patterns passes over, the other one looks at. -/
theorem freeOf_error_patternChecks_iff (hm : m.IsPlain) :
    FreeOf .error (shapeFindings m) ∧ FreeOf .error ((pathPatterns catchAll).findings m hm) ↔
      ∀ value, m.get? pathsKey = some value → Usable catchAll value := by
  rw [(demands_shapeFindings hm).freeOf_error_iff]
  rcases hm.get?_cases pathsKey with hnone | ⟨s, hs⟩ | ⟨patterns, hlist⟩
  · rw [findings_pathPatterns_of_not_list hm (by simp [hnone])]
    refine iff_of_true ⟨by simp [hnone], freeOf_nil _⟩ fun value h => ?_
    exact absurd (hnone.symm.trans h) (Option.some_ne_none value).symm
  · refine iff_of_false (fun h => h.1 s hs) fun h => ?_
    obtain ⟨patterns, heq, -⟩ := h _ hs
    cases heq
  · rw [freeOf_error_pathPatterns_iff hm hlist, hlist]
    constructor
    · rintro ⟨-, h⟩ value hvalue
      exact ⟨patterns, (Option.some.inj hvalue).symm, h⟩
    · intro h
      refine ⟨fun s hs => (by cases hs), ?_⟩
      obtain ⟨others, heq, hothers⟩ := h _ rfl
      obtain rfl := injective_map_text heq
      exact hothers

/-- A warning about patterns is about root globs. -/
private theorem freeOf_warning_patternChecks_iff (hm : m.IsPlain)
    (hline : ∀ patterns : List String, m.get? pathsKey = some (.list (patterns.map .text)) →
      ∀ pattern ∈ patterns, '\n' ∉ pattern.toList) :
    FreeOf .warning ((pathPatterns catchAll).findings m hm) ↔
      ∀ patterns : List String, m.get? pathsKey = some (.list (patterns.map .text)) →
        ∀ pattern ∈ patterns, ¬ IsRootGlob pattern.toList := by
  rcases hm.get?_cases pathsKey with hnone | ⟨s, hs⟩ | ⟨patterns, hlist⟩
  · rw [findings_pathPatterns_of_not_list hm (by simp [hnone])]
    exact iff_of_true (freeOf_nil _) (by simp [hnone])
  · rw [findings_pathPatterns_of_not_list hm (by simp [hs])]
    exact iff_of_true (freeOf_nil _) (by simp [hs])
  · have hglob : ∀ pattern ∈ patterns,
        (isRootOnlyGlob pattern.toList = true ↔ IsRootGlob pattern.toList) :=
      fun pattern hpattern => isRootOnlyGlob_iff (hline patterns hlist pattern hpattern)
    rw [freeOf_warning_pathPatterns_iff hm hlist,
      forall₂_congr fun pattern hpattern => not_congr (hglob pattern hpattern)]
    constructor
    · intro h others hothers
      obtain rfl := injective_map_text (Option.some.inj (hlist.symm.trans hothers))
      exact h
    · exact fun h => h patterns hlist

end Check

namespace Settings

variable {s : Settings} {block : String}

/-- The errors in a block, for strict settings. -/
private theorem freeOf_error_findings_iff (hstrict : s.strict = true) :
    Check.FreeOf .error (s.findings block) ↔ WellFormed s (Metadata.parse block) := by
  have hm := Metadata.parse_isPlain block
  have hpatterns := Check.freeOf_error_patternChecks_iff s.catchAllPatterns hm
  simp only [findings_eq, if_pos hstrict, strictFindings, Check.freeOf_append]
  rw [(Check.demands_descriptionFindings hm).freeOf_error_iff,
    (Check.demands_activationFindings _).freeOf_error_iff]
  constructor
  · rintro ⟨hshape, ⟨⟨-, hdescribed⟩, hactivated⟩, hpath⟩
    exact ⟨hdescribed, hactivated, hpatterns.mp ⟨hshape, hpath⟩⟩
  · rintro ⟨hdescribed, hactivated, husable⟩
    obtain ⟨hshape, hpath⟩ := hpatterns.mpr husable
    have hkeys := Check.freeOf_error_unknownKeyFindings s.knownKeys (Metadata.parse block)
    exact ⟨hshape, ⟨⟨hkeys, hdescribed⟩, hactivated⟩, hpath⟩

/-- The warnings about a block, for strict settings. -/
private theorem freeOf_warning_findings_iff (hstrict : s.strict = true) :
    Check.FreeOf .warning (s.findings block) ↔ Unsuspicious s (Metadata.parse block) := by
  have hm := Metadata.parse_isPlain block
  have hpatterns := Check.freeOf_warning_patternChecks_iff s.catchAllPatterns hm
    fun patterns h => notMem_of_get?_parse h
  simp only [findings_eq, if_pos hstrict, strictFindings, Check.freeOf_append]
  rw [Check.freeOf_warning_unknownKeyFindings_iff, hpatterns]
  constructor
  · rintro ⟨-, ⟨⟨hknown, -⟩, -⟩, hnarrow⟩
    exact ⟨hknown, hnarrow⟩
  · rintro ⟨hknown, hnarrow⟩
    have hshape := (Check.demands_shapeFindings hm).freeOf_warning
    have hdescription := (Check.demands_descriptionFindings hm).freeOf_warning
    have hactivation := (Check.demands_activationFindings (Metadata.parse block)).freeOf_warning
    exact ⟨hshape, ⟨⟨hknown, hdescription⟩, hactivation⟩, hnarrow⟩

/-- **What strict settings accept.** In a file that is not skipped and has a block there is no error
just when the metadata of the block is well-formed, and nothing is wrong with it just when it is
unsuspicious as well. -/
theorem strict_validation_accepts_wellFormed {root : Option Path} {path : Path} {text : String}
    (hstrict : s.strict = true) (hskip : ¬ s.skips root path = true)
    (hblock : block? defaultDelimiter text = some block) :
    ((∀ d ∈ s.validate root path text, d.severity ≠ .error) ↔
      WellFormed s (Metadata.parse block)) ∧
    (s.validate root path text = [] ↔
      WellFormed s (Metadata.parse block) ∧ Unsuspicious s (Metadata.parse block)) := by
  rw [validate_of_block s root path hskip hblock, List.forall_mem_map, List.map_eq_nil_iff,
    Check.eq_nil_iff_freeOf, freeOf_error_findings_iff hstrict, freeOf_warning_findings_iff hstrict]
  exact ⟨freeOf_error_findings_iff hstrict, Iff.rfl⟩

/-- A root glob is no error, and neither is an unknown key. -/
theorem wellFormed_but_suspicious :
    WellFormed { strict := true }
        (Metadata.parse "name: x\npaths:\n- *.md\n\nowner:\ndescription:") ∧
      ¬ Unsuspicious { strict := true }
        (Metadata.parse "name: x\npaths:\n- *.md\n\nowner:\ndescription:") := by
  have hblock : block? defaultDelimiter
      "---\nname: x\npaths:\n- *.md\n\nowner:\ndescription:\r\n---" =
        some "name: x\npaths:\n- *.md\n\nowner:\ndescription:" := by rfl
  have hskip : ¬ skips { strict := true } none (Path.ofString "rule.md") = true := by decide
  obtain ⟨herror, hnil⟩ := strict_validation_accepts_wellFormed rfl hskip hblock
  have hwell := herror.mp (by decide)
  refine ⟨hwell, fun hcareful => ?_⟩
  have hnone := hnil.mpr ⟨hwell, hcareful⟩
  exact absurd hnone (by decide)

end Settings

end Rulebook
