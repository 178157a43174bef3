import Rulebook.Report
import Rulebook.Text.Cells
import Rulebook.Text.Emoji
import Rulebook.Text.Lines

/-!
# Writing to a console

A `Console` turns tagged lines into the characters to write. It shows the known emoji codes, drops
the control characters that would move the cursor, and expands tabs; it never breaks a line. On a
console with colour each line of text that is not empty gets the colour of its tag.

**Main fact.** `write_of_replaceEmoji_eq`: a text in which nothing is replaced is written as it is.

This is the console of `rulelint` as its lines are sent to it, without markup, highlighting and
wrapping. Left out are the names of the emoji, which are a parameter, and consoles of fewer than 80
columns, where the title would be broken into two lines.
-/

namespace Rulebook

/-- Where lines are written to. -/
structure Console where
  /-- Whether colours are shown. -/
  color : Bool := false
  deriving DecidableEq, Repr, Inhabited

namespace Console

variable [Text.EmojiTable] {c : Console}

/-- The control characters that are dropped: bell, backspace, vertical tab, form feed and carriage
return. -/
def isDropped (c : Char) : Bool :=
  c.toNat = 7 || c.toNat = 8 || c.toNat = 11 || c.toNat = 12 || c.toNat = 13

/-- The lines that a text is shown as. -/
def shownLines (text : List Char) : List (List Char) :=
  (Text.lines ((Text.replaceEmoji text).filter fun c => !isDropped c)).map Text.expandTabs

/-- The numbers of the colour of a tag. -/
def colorOf : LineTag → Option String
  | .plain => none
  | .warning => some "33"
  | .error => some "31"
  | .success => some "32"
  | .dim => some "2"

/-- A piece of text, in a colour if there is one and the console shows it. -/
def paint (c : Console) (color : Option String) (text : List Char) : List Char :=
  match color with
  | some code =>
    if c.color && !text.isEmpty then
      '\x1b' :: '[' :: code.toList ++ 'm' :: text ++ ['\x1b', '[', '0', 'm']
    else text
  | none => text

/-- What is written for a text with a tag: its lines, each with a line feed. -/
def write (c : Console) (tag : LineTag) (text : List Char) : List Char :=
  (shownLines text).flatMap fun line => c.paint (colorOf tag) line ++ ['\n']

/-- What is written for a line of output. -/
def line (c : Console) (l : OutputLine) : String :=
  String.ofList (c.write l.tag l.text.toList)

/-! ### The lines of a run -/

/-- The lines at the start of a run, which show the root if the run is verbose. -/
def header (c : Console) (root : Path) (verbose : Bool) : String :=
  let title := c.paint (some "1") "Validating rule files".toList ++
    c.paint (some "1;33") "...".toList ++ ['\n']
  c.line .blank ++ String.ofList title ++
    (if verbose then c.line ⟨.dim, "root: " ++ root.toString⟩ else "") ++ c.line .blank

/-- The line about a file in a verbose run. -/
def trace (c : Console) (displayed : String) (skipped : Bool) : String :=
  c.line ⟨.dim, "  " ++ (if skipped then "skipped" else "checked") ++ " " ++ displayed⟩

/-! ### Text that is shown as it is -/

omit [Text.EmojiTable] in
/-- A console without colour adds nothing to a piece of text. -/
theorem paint_of_color_eq_false (hc : c.color = false) (color : Option String) (text : List Char) :
    c.paint color text = text := by
  cases color <;> simp [paint, hc]

/-- A console without colour writes the lines that a text is shown as. -/
theorem write_eq (hc : c.color = false) (tag : LineTag) (text : List Char) :
    c.write tag text = Text.unlines (shownLines text) ++ ['\n'] := by
  simp only [write, paint_of_color_eq_false hc]
  refine Text.flatMap_append_newline fun h => ?_
  exact Text.lines_ne_nil _ (List.map_eq_nil_iff.mp h)

/-- A text is written as it is if no code, tab or cursor control in it is replaced. -/
theorem write_of_replaceEmoji_eq (hc : c.color = false) {text : List Char}
    (hcodes : Text.replaceEmoji text = text) (htab : '\t' ∉ text)
    (hdrop : ∀ x ∈ text, isDropped x = false) (tag : LineTag) :
    c.write tag text = text ++ ['\n'] := by
  have hfilter : text.filter (fun x => !isDropped x) = text :=
    List.filter_eq_self.mpr fun x hx => by simp [hdrop x hx]
  have hexpand : (Text.lines text).map Text.expandTabs = Text.lines text := by
    refine (List.map_congr_left fun l hl => ?_).trans (List.map_id _)
    exact Text.expandTabsFrom_of_notMem (fun ht => htab (Text.mem_of_mem_lines hl ht)) 0
  rw [write_eq hc, shownLines, hcodes, hfilter, hexpand, Text.unlines_lines]

end Console

end Rulebook
