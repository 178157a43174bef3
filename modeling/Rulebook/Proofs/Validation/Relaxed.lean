import Rulebook.Proofs.Validation.Findings
import Mathlib.Data.List.Basic
import Mathlib.Data.List.Flatten

/-!
# Relaxed settings

Settings are **relaxed** when they exempt more files, know more keys, refuse fewer patterns or are
strict no longer; the names of the folders and the extension stay. Each check is about a key, or
about a pattern, on its own, so that a relaxed check has the same findings in the same order, less
some of them. Without being strict only the first check is made, and its findings come first.

**Main facts.** `validate_sublist`: relaxed settings find fewer things wrong with a file.
`validate_lenient_prefix`: what is wrong with a file anyway is found first by strict settings.
-/

namespace Rulebook

open Frontmatter

/-! ### Checks -/

namespace Check

variable {m : Metadata} {known known' catchAll catchAll' : List String}

/-- Whoever knows more keys finds fewer of them unknown. -/
private theorem unknownKeyFindings_sublist (h : known ⊆ known') :
    (unknownKeyFindings known' m).Sublist (unknownKeyFindings known m) := by
  refine (List.monotone_filter_right m.keys fun key hkey => ?_).map _
  simp only [Bool.not_eq_true', List.contains_eq_mem, decide_eq_false_iff_not] at hkey ⊢
  exact fun hmem => hkey (h hmem)

/-- Whoever refuses fewer patterns finds less wrong with each of them. -/
private theorem patternFindings_sublist (h : catchAll' ⊆ catchAll) (pattern : String) :
    (patternFindings catchAll' pattern).Sublist (patternFindings catchAll pattern) := by
  refine List.Sublist.append ?_ (List.Sublist.refl _)
  by_cases hmem : catchAll'.contains pattern = true
  · have hmem' : catchAll.contains pattern = true :=
      List.contains_iff_mem.mpr (h (List.contains_iff_mem.mp hmem))
    rw [if_pos hmem, if_pos hmem']
  · rw [if_neg hmem]
    exact List.nil_sublist _

/-- Whoever refuses fewer patterns finds less wrong with all of them. -/
private theorem pathPatternFindings?_sublist (h : catchAll' ⊆ catchAll) {fs fs' : List Finding}
    (hrun : pathPatternFindings? catchAll m = .ok fs)
    (hrun' : pathPatternFindings? catchAll' m = .ok fs') : fs'.Sublist fs := by
  rw [pathPatternFindings?] at hrun hrun'
  rcases hget : m.get? pathsKey with _ | value
  · rw [hget] at hrun hrun'
    rw [← Except.ok.inj hrun, ← Except.ok.inj hrun']
  · rw [hget] at hrun hrun'
    cases value with
    | list items =>
      cases items with
      | nil => rw [← Except.ok.inj hrun, ← Except.ok.inj hrun']
      | cons item items =>
        dsimp only at hrun hrun'
        -- the patterns are the same, and each of them has fewer findings
        cases htexts : texts? (item :: items) with
        | error e =>
          rw [htexts] at hrun
          cases hrun
        | ok patterns =>
          rw [htexts] at hrun hrun'
          rw [← Except.ok.inj hrun, ← Except.ok.inj hrun']
          exact List.Sublist.flatMap_right _ fun pattern _ => patternFindings_sublist h pattern
    | _ => rw [← Except.ok.inj hrun, ← Except.ok.inj hrun']

end Check

/-! ### Settings -/

namespace Settings

/-- Settings **relax** others when they differ from these only in that they exempt more files, know
more keys, refuse fewer patterns, or are not strict. -/
structure Relaxes (s' s : Settings) : Prop where
  extension_eq : s'.extension = s.extension
  skillsSegment_eq : s'.skillsSegment = s.skillsSegment
  sharedRulesArea_eq : s'.sharedRulesArea = s.sharedRulesArea
  exempts : s.exemptFilenames ⊆ s'.exemptFilenames
  knows : s.knownKeys ⊆ s'.knownKeys
  refuses : s'.catchAllPatterns ⊆ s.catchAllPatterns
  strict : s'.strict = true → s.strict = true

variable {s s' : Settings}

private theorem Relaxes.strictFindings_sublist (h : s'.Relaxes s) {m : Metadata} (hm : m.IsPlain) :
    (strictFindings s' m hm).Sublist (strictFindings s m hm) := by
  have hpatterns := Check.pathPatternFindings?_sublist h.refuses
    (Check.run_eq_ok_findings hm (.pathPatterns s.catchAllPatterns))
    (Check.run_eq_ok_findings hm (.pathPatterns s'.catchAllPatterns))
  have hkeys : (Check.unknownKeyFindings s'.knownKeys m).Sublist _ :=
    Check.unknownKeyFindings_sublist h.knows
  exact ((hkeys.append (List.Sublist.refl _)).append (List.Sublist.refl _)).append hpatterns

/-- Relaxed settings have fewer findings about a block. -/
private theorem Relaxes.findings_sublist (h : s'.Relaxes s) (block : String) :
    (s'.findings block).Sublist (s.findings block) := by
  rw [findings_eq, findings_eq]
  refine (List.Sublist.refl _).append ?_
  by_cases hs' : s'.strict = true
  · rw [if_pos hs', if_pos (h.strict hs')]
    exact h.strictFindings_sublist _
  · rw [if_neg hs']
    exact List.nil_sublist _

private theorem Relaxes.skips_of_skips (h : s'.Relaxes s) {root : Option Path} {path : Path}
    (hs : s.skips root path = true) : s'.skips root path = true := by
  rw [skips, Bool.or_eq_true] at hs ⊢
  refine hs.imp (fun hname => ?_) fun hfolder => ?_
  · exact List.contains_iff_mem.mpr (h.exempts (List.contains_iff_mem.mp hname))
  · rwa [h.skillsSegment_eq]

/-- **Relaxed settings find fewer things wrong with a file**, in the same order. -/
theorem Relaxes.validate_sublist (h : s'.Relaxes s) (root : Option Path) (path : Path)
    (text : String) : (s'.validate root path text).Sublist (s.validate root path text) := by
  have hshares : s'.shares root path = s.shares root path := by
    rw [shares, shares, h.sharedRulesArea_eq]
  rw [validate, validate, hshares]
  by_cases hs' : s'.skips root path = true
  · rw [if_pos hs']
    exact List.nil_sublist _
  · have hs : ¬ s.skips root path = true := fun hs => hs' (h.skips_of_skips hs)
    rw [if_neg hs', if_neg hs]
    cases block? defaultDelimiter text with
    | none => exact List.Sublist.refl _
    | some block => exact (h.findings_sublist block).map _

/-- **What is wrong with a file anyway** is found first by strict settings. -/
theorem validate_lenient_prefix (s : Settings) (root : Option Path) (path : Path) (text : String) :
    validate { s with strict := false } root path text <+:
      validate { s with strict := true } root path text := by
  have hskips : skips { s with strict := false } root path =
      skips { s with strict := true } root path := rfl
  have hshares : shares { s with strict := false } root path =
      shares { s with strict := true } root path := rfl
  rw [validate, validate, hskips, hshares]
  cases skips { s with strict := true } root path with
  | true =>
    rw [if_pos rfl]
    exact List.nil_prefix
  | false =>
    cases block? defaultDelimiter text with
    | none => exact List.prefix_rfl
    | some block =>
      dsimp only [Bool.false_eq_true, if_false]
      rw [if_neg Bool.false_ne_true, if_neg Bool.false_ne_true]
      have hlenient : findings { s with strict := false } block =
          Check.shapeFindings (Metadata.parse block) := by
        rw [findings_eq]
        exact List.append_nil _
      refine List.IsPrefix.map _ ?_
      rw [hlenient, findings_eq]
      exact List.prefix_append _ _

end Settings

end Rulebook
