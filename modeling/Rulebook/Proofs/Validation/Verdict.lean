import Rulebook.Validation

/-!
# The verdict on a file

What is wrong with a file depends on its text only through the metadata of its block, or through the
lack of a block. It depends on where the file is only through whether the file is skipped and
whether it lies in the shared area.

**Main facts.** `validate_congr`: two texts whose blocks have the same metadata get the same
verdict. `validate_eq_judge`: what the verdict on a file depends on.
-/

namespace Rulebook

open Frontmatter

namespace Check

/-- The findings of a check do not depend on why the metadata is plain. -/
private theorem findings_congr (c : Check) {m n : Metadata} (hm : m.IsPlain) (hn : n.IsPlain)
    (h : m = n) :
    c.findings m hm = c.findings n hn := by
  subst h
  rfl

end Check

namespace Settings

variable (s : Settings) (root : Option Path) (path : Path)

private theorem findings_eq_of_parse_eq {block other : String}
    (h : Metadata.parse block = Metadata.parse other) : s.findings block = s.findings other :=
  congrArg (List.flatMap · s.checks) (funext fun c => c.findings_congr _ _ h)

/-- A file without a block is only missing that, if it has to have one. -/
theorem validate_of_no_block {text : String} (hskip : ¬ s.skips root path = true)
    (hblock : block? defaultDelimiter text = none) :
    s.validate root path text =
      if s.shares root path then [] else [noFrontmatterFinding.at path] := by
  rw [validate, if_neg hskip, hblock]

/-- What is wrong with a file that has a block is what is found in the block. -/
theorem validate_of_block {text block : String} (hskip : ¬ s.skips root path = true)
    (hblock : block? defaultDelimiter text = some block) :
    s.validate root path text = (s.findings block).map fun f => f.at path := by
  rw [validate, if_neg hskip, hblock]

/-- The metadata of the block of a text, if there is a block. -/
def metadata? (text : String) : Option Metadata :=
  (block? defaultDelimiter text).map Metadata.parse

/-- **The verdict on a file** depends on the metadata of its block only. -/
theorem validate_congr {text other : String} (h : metadata? text = metadata? other) :
    s.validate root path text = s.validate root path other := by
  unfold metadata? at h
  rw [validate, validate]
  split
  · rfl
  cases htext : block? defaultDelimiter text with
  | none =>
    rw [htext, Option.map_none] at h
    rw [Option.map_eq_none_iff.mp h.symm]
  | some block =>
    rw [htext, Option.map_some] at h
    obtain ⟨block', hother, hparse⟩ := Option.map_eq_some_iff.mp h.symm
    rw [hother]
    dsimp only
    rw [s.findings_eq_of_parse_eq hparse]

/-- The findings about a file, by whether it is skipped, whether it lies in the shared area, and its
block if it has one. -/
def judge (skipped shared : Bool) (block : Option String) : List Finding :=
  if skipped then []
  else
    match block with
    | none => if shared then [] else [noFrontmatterFinding]
    | some block => s.findings block

/-- **What the verdict on a file depends on.** -/
theorem validate_eq_judge (text : String) :
    s.validate root path text =
      (s.judge (s.skips root path) (s.shares root path) (block? defaultDelimiter text)).map
        fun f => f.at path := by
  unfold validate judge
  cases s.skips root path with
  | true => rfl
  | false =>
    cases block? defaultDelimiter text with
    | none => cases s.shares root path <;> rfl
    | some block => rfl

end Settings

end Rulebook
