import Rulebook.Diagnostic
import Rulebook.Frontmatter.Metadata
import Rulebook.Settings.Basic
import Rulebook.Text.Blank
import Rulebook.Text.Quoted
import Rulebook.Text.Word

/-!
# Checks on metadata

A `Check` looks at the metadata of one file and has findings. The shape check is always made; the
other four only by a strict run. `Check.run` answers for metadata of any kind and refuses a path
pattern that is not a text. `Check.findings` is the same on plain metadata, where nothing can be
refused.

**Main fact.** `run_eq_ok_findings`: on plain metadata no check refuses anything.

These are all checks of `rulelint`. Values of other kinds than those of `Frontmatter.Value` are left
out, as no block holds them.
-/

namespace Rulebook

open Frontmatter

/-- The key that holds the patterns of a rule. -/
def pathsKey : String := "paths"

/-- The key that says what a rule is about. -/
def descriptionKey : String := "description"

/-- The key of a rule that needs no patterns. -/
def alwaysApplyKey : String := "alwaysApply"

namespace Frontmatter.Value

mutual

/-- A value as it is shown in a message. -/
def render : Value → String
  | .null => "None"
  | .flag true => "True"
  | .flag false => "False"
  | .number n => toString n
  | .text s => Text.quote s
  | .list items => "[" ++ ", ".intercalate (renderAll items) ++ "]"

/-- Values as they are shown in a message. -/
def renderAll : List Value → List String
  | [] => []
  | item :: items => render item :: renderAll items

end

end Frontmatter.Value

/-- A question to the metadata of one file. -/
inductive Check where
  /-- The patterns are a list of texts. -/
  | pathsShape
  /-- Every key is one of `known`. -/
  | unknownKeys (known : List String)
  /-- There is a description, and it is not blank. -/
  | description
  /-- The rule has either patterns or the mark that it always applies. -/
  | activation
  /-- There are patterns, and each of them is narrow and reaches below the top folder. -/
  | pathPatterns (catchAll : List String)
  deriving DecidableEq, Repr

namespace Check

/-- A value stands where a check needs a text. -/
structure NotText where
  value : Value
  deriving Repr, Inhabited

/-- The refusal in words. -/
def NotText.message (e : NotText) : String :=
  "a path pattern has to be a text: " ++ e.value.render

/-! ### The findings of each check -/

/-- A list is shown pattern by pattern if the pattern is not a text; anything but a list is wrong
as a whole. -/
def shapeFindings (m : Metadata) : List Finding :=
  match m.get? pathsKey with
  | none => []
  | some (.list items) =>
    items.filterMap fun item =>
      match item with
      | .text _ => none
      | other => some ⟨.error, "invalid path pattern: " ++ other.render⟩
  | some _ => [⟨.error, "'paths' must be an array"⟩]

/-- Each unknown key, in order. -/
def unknownKeyFindings (known : List String) (m : Metadata) : List Finding :=
  (m.keys.filter fun key => !known.contains key).map fun key =>
    ⟨.warning, "unknown frontmatter key: \"" ++ key ++ "\""⟩

/-- A description that is not there, or is empty, is missing; one of blanks only is empty. A
description that is a list counts as one. -/
def descriptionFindings (m : Metadata) : List Finding :=
  match m.get? descriptionKey with
  | none => [⟨.error, "missing \"description\" field"⟩]
  | some .null => [⟨.error, "missing \"description\" field"⟩]
  | some (.text s) =>
    if s = "" then [⟨.error, "missing \"description\" field"⟩]
    else if Text.isBlankText s.toList then [⟨.error, "empty \"description\" field"⟩]
    else []
  | some _ => []

/-- Exactly one of the two keys has to be there. -/
def activationFindings (m : Metadata) : List Finding :=
  match m.contains pathsKey, m.contains alwaysApplyKey with
  | true, true => [⟨.error, "cannot have both \"paths\" and \"alwaysApply\""⟩]
  | false, false => [⟨.error, "must have either \"paths\" or \"alwaysApply\""⟩]
  | _, _ => []

/-- A root-only glob is `*.` and an extension of word characters, with nothing after it but perhaps
one line feed. -/
def isRootOnlyGlob (pattern : List Char) : Bool :=
  match pattern with
  | '*' :: '.' :: rest => Text.isWordText (Text.dropFinalNewline rest)
  | _ => false

/-- What is wrong with one pattern. -/
def patternFindings (catchAll : List String) (pattern : String) : List Finding :=
  (if catchAll.contains pattern then
    [⟨.error, "catch-all pattern \"" ++ pattern ++
      "\", use \"alwaysApply: true\" or narrow the glob"⟩]
  else []) ++
  (if isRootOnlyGlob pattern.toList then
    [⟨.warning, "root-only glob \"" ++ pattern ++ "\", did you mean \"**/" ++ pattern ++ "\"?"⟩]
  else [])

/-- The finding about a list without patterns. -/
def emptyPathsFinding : Finding :=
  ⟨.error, "'paths' array is empty (rule will never activate)"⟩

/-- The texts among a list of values, provided that all of them are. -/
def texts? : List Value → Except NotText (List String)
  | [] => .ok []
  | .text s :: items => (texts? items).map (s :: ·)
  | other :: _ => .error ⟨other⟩

/-- What is wrong with the patterns, one after the other. -/
def pathPatternFindings? (catchAll : List String) (m : Metadata) : Except NotText (List Finding) :=
  match m.get? pathsKey with
  | some (.list []) => .ok [emptyPathsFinding]
  | some (.list items) =>
    (texts? items).map fun patterns => patterns.flatMap (patternFindings catchAll)
  | _ => .ok []

/-! ### Making a check -/

/-- The findings of a check on metadata of any kind. -/
def run (c : Check) (m : Metadata) : Except NotText (List Finding) :=
  match c with
  | pathsShape => .ok (shapeFindings m)
  | unknownKeys known => .ok (unknownKeyFindings known m)
  | description => .ok (descriptionFindings m)
  | activation => .ok (activationFindings m)
  | pathPatterns catchAll => pathPatternFindings? catchAll m

theorem texts?_isOk {items : List Value} (h : ∀ item ∈ items, ∃ s, item = .text s) :
    (texts? items).isOk = true := by
  induction items with
  | nil => rfl
  | cons item items ih =>
    obtain ⟨s, rfl⟩ := h item List.mem_cons_self
    have := ih fun x hx => h x (List.mem_cons_of_mem _ hx)
    rw [texts?]
    cases he : texts? items with
    | error e => simp [he, Except.isOk, Except.toBool] at this
    | ok ss => rfl

/-- On plain metadata no check meets a value that it refuses. -/
theorem run_isOk {m : Metadata} (h : m.IsPlain) (c : Check) : (c.run m).isOk = true := by
  cases c with
  | pathPatterns catchAll =>
    simp only [run, pathPatternFindings?]
    split
    · rfl
    · next items _ hg =>
      obtain ⟨k, hk⟩ := Metadata.mem_of_get? hg
      have := texts?_isOk (h _ hk)
      cases he : texts? items with
      | error e => simp [he, Except.isOk, Except.toBool] at this
      | ok ss => rfl
    · rfl
  | _ => rfl

/-- The findings of a check on plain metadata. -/
def findings (c : Check) (m : Metadata) (h : m.IsPlain) : List Finding :=
  match he : c.run m with
  | .ok fs => fs
  | .error e => absurd (run_isOk h c) (by rw [he]; exact Bool.false_ne_true)

/-- On plain metadata a check refuses nothing and has its findings. -/
theorem run_eq_ok_findings {m : Metadata} (h : m.IsPlain) (c : Check) :
    c.run m = .ok (c.findings m h) := by
  unfold findings
  split
  · assumption
  · next e he => exact absurd (run_isOk h c) (by rw [he]; exact Bool.false_ne_true)

end Check

/-- The checks that a run makes, in order. -/
def Settings.checks (s : Settings) : List Check :=
  .pathsShape ::
    if s.strict then
      [.unknownKeys s.knownKeys, .description, .activation, .pathPatterns s.catchAllPatterns]
    else []

end Rulebook
