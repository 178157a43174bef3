import Rulebook.Proofs.Frontmatter.Cursor
import Rulebook.Proofs.Validation.Findings

/-!
# Validation never stumbles

Two things could stop a validation: an item that is misplaced while the block is read, and a path
pattern that is no text when the checks are made. `Settings.validate?` refuses both. Since a reading
stays sound, and what it yields is texts and lists of texts, nothing is refused in any file, and the
branch of the shape check that reports single patterns is never taken.

**Main facts.** `validate?_eq_ok`: validation with refusals comes to the verdict.
`message_ne_of_mem_validate`: no path pattern is ever reported as invalid.
`validation_never_stumbles`: both, and what they rest on.
-/

namespace Rulebook

open Frontmatter

namespace Settings

variable (s : Settings) (root : Option Path) (path : Path)

/-! ### Nothing is refused -/

private theorem findings?_eq_ok (block : String) : s.findings? block = .ok (s.findings block) := by
  have hm := Metadata.parse_isPlain block
  have hrun : (fun c : Check => (c.run (Metadata.parse block)).mapError Refusal.notText) =
      fun c => pure (c.findings (Metadata.parse block) hm) := by
    funext c
    rw [Check.run_eq_ok_findings hm]
    rfl
  rw [findings?, parse?_eq_ok, findings, List.flatMap_def]
  change (s.checks.mapM fun c => (c.run (Metadata.parse block)).mapError Refusal.notText) >>=
    (fun found => pure found.flatten) = _
  rw [hrun, List.mapM_pure, pure_bind]
  rfl

/-- **Validation with refusals comes to the verdict.** -/
theorem validate?_eq_ok (text : String) :
    s.validate? root path text = .ok (s.validate root path text) := by
  rw [validate?, validate]
  split
  · rfl
  · cases block? defaultDelimiter text with
    | none => rfl
    | some block =>
      dsimp only
      rw [findings?_eq_ok]
      rfl

end Settings

/-! ### How messages start -/

namespace Check

/-- No message of the findings **starts with** a character. -/
def NoneStartsWith (c : Char) (fs : List Finding) : Prop :=
  ∀ f ∈ fs, f.message.toList.head? ≠ some c

variable {m : Metadata}

private theorem noneStartsWith_nil {c : Char} : NoneStartsWith c [] :=
  List.forall_mem_nil _

private theorem noneStartsWith_singleton {c : Char} {f : Finding} :
    NoneStartsWith c [f] ↔ f.message.toList.head? ≠ some c :=
  List.forall_mem_singleton

private theorem noneStartsWith_append {c : Char} {fs gs : List Finding} :
    NoneStartsWith c (fs ++ gs) ↔ NoneStartsWith c fs ∧ NoneStartsWith c gs :=
  List.forall_mem_append

private theorem noneStartsWith_shapeFindings (hm : m.IsPlain) :
    NoneStartsWith 'i' (shapeFindings m) := by
  by_cases h : ∀ text, m.get? pathsKey ≠ some (.text text)
  · rw [shapeFindings_of_not_text hm h]
    exact noneStartsWith_nil
  · obtain ⟨text, htext⟩ := not_forall_not.mp h
    rw [shapeFindings_of_text htext]
    exact noneStartsWith_singleton.mpr (by decide)

private theorem noneStartsWith_unknownKeyFindings (known : List String) :
    NoneStartsWith 'i' (unknownKeyFindings known m) := by
  intro f hf
  obtain ⟨key, -, rfl⟩ := List.mem_map.mp hf
  simp

private theorem noneStartsWith_descriptionFindings :
    NoneStartsWith 'i' (descriptionFindings m) := by
  have hmissing : NoneStartsWith 'i' [⟨.error, "missing \"description\" field"⟩] :=
    noneStartsWith_singleton.mpr (by decide)
  rw [descriptionFindings]
  split
  · exact hmissing
  · exact hmissing
  · split
    · exact hmissing
    · split
      · exact noneStartsWith_singleton.mpr (by decide)
      · exact noneStartsWith_nil
  · exact noneStartsWith_nil

private theorem noneStartsWith_activationFindings : NoneStartsWith 'i' (activationFindings m) := by
  rw [activationFindings]
  split
  · exact noneStartsWith_singleton.mpr (by decide)
  · exact noneStartsWith_singleton.mpr (by decide)
  · exact noneStartsWith_nil

private theorem noneStartsWith_patternFindings (catchAll : List String) (pattern : String) :
    NoneStartsWith 'i' (patternFindings catchAll pattern) := by
  rw [patternFindings, noneStartsWith_append]
  constructor
  · split
    · exact noneStartsWith_singleton.mpr (by simp)
    · exact noneStartsWith_nil
  · split
    · exact noneStartsWith_singleton.mpr (by simp)
    · exact noneStartsWith_nil

private theorem noneStartsWith_pathPatterns (catchAll : List String) (hm : m.IsPlain) :
    NoneStartsWith 'i' ((pathPatterns catchAll).findings m hm) := by
  rcases hm.get?_cases pathsKey with h | ⟨text, h⟩ | ⟨patterns, h⟩
  · rw [findings_pathPatterns_of_not_list hm (by simp [h])]
    exact noneStartsWith_nil
  · rw [findings_pathPatterns_of_not_list hm (by simp [h])]
    exact noneStartsWith_nil
  · rw [findings_pathPatterns_of_list hm h]
    split
    · exact noneStartsWith_singleton.mpr (by decide)
    · exact List.forall_mem_flatMap.mpr fun pattern _ =>
        noneStartsWith_patternFindings catchAll pattern

end Check

namespace Settings

open Check

private theorem noneStartsWith_findings (s : Settings) (block : String) :
    NoneStartsWith 'i' (s.findings block) := by
  have hm := Metadata.parse_isPlain block
  rw [findings_eq, noneStartsWith_append]
  refine ⟨noneStartsWith_shapeFindings hm, ?_⟩
  split
  · simp only [strictFindings, noneStartsWith_append]
    exact ⟨⟨⟨noneStartsWith_unknownKeyFindings _, noneStartsWith_descriptionFindings⟩,
      noneStartsWith_activationFindings⟩, noneStartsWith_pathPatterns _ hm⟩
  · exact noneStartsWith_nil

/-- **No path pattern is ever reported as invalid.** -/
theorem message_ne_of_mem_validate {s : Settings} {root : Option Path} {path : Path}
    {text : String} {d : Diagnostic} (hd : d ∈ s.validate root path text) (shown : String) :
    d.message ≠ "invalid path pattern: " ++ shown := by
  have hstart : d.message.toList.head? ≠ some 'i' := by
    rw [validate] at hd
    split at hd
    · exact absurd hd List.not_mem_nil
    · split at hd
      · split at hd
        · exact absurd hd List.not_mem_nil
        · obtain rfl := List.mem_singleton.mp hd
          have hwarning : noFrontmatterFinding.message.toList.head? ≠ some 'i' := by decide
          exact hwarning
      · next block _ =>
        obtain ⟨f, hf, rfl⟩ := List.mem_map.mp hd
        exact s.noneStartsWith_findings block f hf
  intro hmessage
  rw [hmessage] at hstart
  simp at hstart

/-- **Validation never stumbles.** After any number of lines of a block, the cursor stands on a list
or nowhere, the keys are keys by the grammar, and what is stored holds no line feed; so no item is
ever refused. Of any file, wherever it is and whatever the settings are, the checks refuse nothing
either, and no path pattern is reported as invalid. The patterns of a block are texts throughout,
and each of them is tested as it is. -/
theorem validation_never_stumbles :
    (∀ (block : String) (n : ℕ), (((linesOf block).take n).foldl Reading.step {}).IsSound) ∧
    (∀ block : String, Metadata.parse? block = .ok (Metadata.parse block)) ∧
    (∀ (s : Settings) (root : Option Path) (path : Path) (text : String),
      s.validate? root path text = .ok (s.validate root path text) ∧
        ∀ d ∈ s.validate root path text, ∀ shown, d.message ≠ "invalid path pattern: " ++ shown) ∧
    ∀ (block : String) (items : List Value),
      (Metadata.parse block).get? pathsKey = some (.list items) →
        ∃ patterns : List String, items = patterns.map .text ∧
          ∀ catchAll, (Check.pathPatterns catchAll).run (Metadata.parse block) =
            .ok (if patterns = [] then [emptyPathsFinding]
              else patterns.flatMap (patternFindings catchAll)) := by
  refine ⟨fun block n => ?_, parse?_eq_ok, fun s root path text => ?_, fun block items h => ?_⟩
  · exact Reading.IsSound.empty.foldl fun l hl =>
      isSound_of_mem_linesOf ((List.take_sublist n _).subset hl)
  · exact ⟨s.validate?_eq_ok root path text, fun d hd => message_ne_of_mem_validate hd⟩
  · have hm := Metadata.parse_isPlain block
    rcases hm.get?_cases pathsKey with hnone | ⟨text, htext⟩ | ⟨patterns, hlist⟩
    · exact absurd (hnone.symm.trans h) (Option.some_ne_none _).symm
    · cases htext.symm.trans h
    · obtain rfl : patterns.map .text = items :=
        Value.list.inj (Option.some.inj (hlist.symm.trans h))
      refine ⟨patterns, rfl, fun catchAll => ?_⟩
      rw [run_eq_ok_findings hm, findings_pathPatterns_of_list hm hlist]

end Settings

end Rulebook
