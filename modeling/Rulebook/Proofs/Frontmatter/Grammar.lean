import Rulebook.Frontmatter.Line
import Rulebook.Proofs.Text.Trim

/-!
# The shapes of a line

`Line.classify` tries one form after the other. Here each form is told by how its lines are put
together: a key, a colon and the rest; blanks, a dash and the rest. The forms exclude each other, so
the kind of a line can be read off its parts.

**Main facts.** `splitKey?_eq_some_iff`: a line is split at its key in one way only. `classify_key`
and `classify_dash` give the kind of a line with a key and of a line with a dash.
-/

namespace Rulebook.Frontmatter

open Text

/-- A **key** is one of the characters that a key may start with, and any number of those that may
follow it. -/
def IsKey (key : List Char) : Prop :=
  ∃ start rest, key = start :: rest ∧ isKeyStart start = true ∧ ∀ c ∈ rest, isKeyChar c = true

/-! ### The characters of keys -/

private theorem isKeyChar_of_isKeyStart {c : Char} (h : isKeyStart c = true) :
    isKeyChar c = true := by
  rw [isKeyChar, h, Bool.true_or]

theorem isKeyChar_colon : isKeyChar ':' = false := by decide

theorem isBlank_colon : isBlank ':' = false := by decide

theorem isBlank_hyphen : isBlank '-' = false := by decide

private theorem isBlank_hash : isBlank '#' = false := by decide

/-- A character that a key may start with is a letter, a digit or the underscore of ASCII. -/
private theorem toNat_of_isKeyStart {c : Char} (h : isKeyStart c = true) :
    (65 ≤ c.toNat ∧ c.toNat ≤ 90) ∨ (97 ≤ c.toNat ∧ c.toNat ≤ 122) ∨
      (48 ≤ c.toNat ∧ c.toNat ≤ 57) ∨ c.toNat = 95 := by
  have hclasses : (((decide (c.val ≥ 'A'.val ∧ c.val ≤ 'Z'.val) ||
      decide (c.val ≥ 'a'.val) && decide (c.val ≤ 'z'.val)) ||
        decide (c.val ≥ '0'.val) && decide (c.val ≤ '9'.val)) || decide (c = '_')) = true := h
  simp only [Bool.or_eq_true, Bool.and_eq_true, decide_eq_true_eq] at hclasses
  rcases hclasses with ((⟨h₁, h₂⟩ | ⟨h₁, h₂⟩) | ⟨h₁, h₂⟩) | rfl
  · exact .inl ⟨h₁, h₂⟩
  · exact .inr (.inl ⟨h₁, h₂⟩)
  · exact .inr (.inr (.inl ⟨h₁, h₂⟩))
  · exact .inr (.inr (.inr rfl))

/-- No blank is part of a key. -/
private theorem isBlank_of_isKeyStart {c : Char} (h : isKeyStart c = true) : isBlank c = false := by
  have hcode := toNat_of_isKeyStart h
  simp only [isBlank, Bool.or_eq_false_iff, Bool.and_eq_false_iff, decide_eq_false_iff_not,
    beq_eq_false_iff_ne]
  omega

/-- Every character of a key may stand behind its first one. -/
theorem IsKey.forall_mem {key : List Char} (h : IsKey key) : ∀ c ∈ key, isKeyChar c = true := by
  obtain ⟨start, rest, rfl, hstart, hrest⟩ := h
  exact List.forall_mem_cons.mpr ⟨isKeyChar_of_isKeyStart hstart, hrest⟩

/-- A line is split at its key in one way only: into the key, and what follows the first colon. -/
theorem splitKey?_eq_some_iff {line key rest : List Char} :
    splitKey? line = some (key, rest) ↔ IsKey key ∧ line = key ++ ':' :: rest := by
  constructor
  · intro h
    rw [splitKey?] at h
    split at h
    · next start more rest' htake hdrop =>
      split at h
      · next hstart =>
        obtain ⟨rfl, rfl⟩ := Prod.mk.inj (Option.some.inj h)
        have hall : ∀ c ∈ start :: more, isKeyChar c = true := fun c hc =>
          List.mem_takeWhile_imp (htake ▸ hc)
        refine ⟨⟨start, more, rfl, hstart, fun c hc => hall c (List.mem_cons_of_mem _ hc)⟩, ?_⟩
        rw [← htake, ← hdrop, List.takeWhile_append_dropWhile]
      · exact absurd h (Option.some_ne_none _).symm
    · exact absurd h (Option.some_ne_none _).symm
  · rintro ⟨hkey, rfl⟩
    have hall := hkey.forall_mem
    have hcolon : ¬ isKeyChar ':' = true := by rw [isKeyChar_colon]; exact Bool.false_ne_true
    have htake : (key ++ ':' :: rest).takeWhile isKeyChar = key := by
      rw [List.takeWhile_append_of_pos hall, List.takeWhile_cons_of_neg hcolon, List.append_nil]
    have hdrop : (key ++ ':' :: rest).dropWhile isKeyChar = ':' :: rest := by
      rw [List.dropWhile_append_of_pos hall, List.dropWhile_cons_of_neg hcolon]
    obtain ⟨start, more, rfl, hstart, -⟩ := hkey
    rw [splitKey?, htake, hdrop]
    exact if_pos hstart

/-! ### Quotes -/

/-- A text **stands in quotes** when it starts and ends with the same quote. -/
def InQuotes (s : List Char) : Prop :=
  ∃ quote inner, isQuote quote = true ∧ s = quote :: (inner ++ [quote])

theorem isBlank_of_isQuote {c : Char} (h : isQuote c = true) : isBlank c = false := by
  have hc : c = '"' ∨ c = '\'' := by simpa [isQuote] using h
  rcases hc with rfl | rfl <;> decide

theorem unquote_inQuotes {quote : Char} (h : isQuote quote = true) (inner : List Char) :
    unquote (quote :: (inner ++ [quote])) = inner := by
  rw [unquote, h, List.getLast?_concat, beq_self_eq_true, Bool.and_self]
  exact List.dropLast_concat

theorem unquote_of_not_inQuotes {s : List Char} (h : ¬ InQuotes s) : unquote s = s := by
  cases s with
  | nil => rfl
  | cons first rest =>
    rw [unquote]
    refine if_neg fun hquoted => h ?_
    obtain ⟨hquote, hlast⟩ := Bool.and_eq_true_iff.mp hquoted
    obtain ⟨inner, rfl⟩ := List.getLast?_eq_some_iff.mp (beq_iff_eq.mp hlast)
    exact ⟨first, inner, hquote, rfl⟩

/-- Taking the quotes away adds no character. -/
theorem mem_of_mem_unquote {s : List Char} {c : Char} (h : c ∈ unquote s) : c ∈ s := by
  by_cases hquotes : InQuotes s
  · obtain ⟨quote, inner, hquote, rfl⟩ := hquotes
    rw [unquote_inQuotes hquote] at h
    exact List.mem_cons_of_mem _ (List.mem_append_left _ h)
  · rwa [unquote_of_not_inQuotes hquotes] at h

/-! ### Silent lines -/

/-- A line is **silent** when it is blank or a comment. -/
def IsSilent (line : List Char) : Prop :=
  ∀ c ∈ (trim line).head?, c = '#'

theorem classify_of_silent {line : List Char} (h : IsSilent line) :
    Line.classify line = .ignored := by
  rw [Line.classify]
  split
  · rfl
  · rfl
  · next hnil hhash =>
    cases hline : trim line with
    | nil => exact absurd hline hnil
    | cons c s =>
      obtain rfl : c = '#' := h c (by rw [hline]; rfl)
      exact absurd hline (hhash s)

/-- A line that is not silent is read as a key line if it has a key, and as an item otherwise. -/
theorem classify_of_not_silent {line : List Char} (h : ¬ IsSilent line) :
    Line.classify line =
      match splitKey? line with
      | some (key, rest) =>
        if isOneLine rest then
          match trim rest with
          | [] => .openList (String.ofList key)
          | value => .scalar (String.ofList key) (String.ofList (unquote value))
        else .classifyItem line
      | none => .classifyItem line := by
  rw [Line.classify]
  split
  · next hnil =>
    refine absurd (fun c hc => ?_) h
    rw [hnil] at hc
    exact absurd hc (Option.not_mem_none c)
  · next s hhash =>
    refine absurd (fun c hc => ?_) h
    rw [hhash] at hc
    exact (Option.some.inj hc).symm
  · rfl

/-- What a line starts with behind its blanks decides whether it is silent. -/
private theorem isSilent_append_cons_iff {before rest : List Char} {c : Char}
    (hbefore : OnlyBlanks before)
    (hblank : isBlank c = false) : IsSilent (before ++ c :: rest) ↔ c = '#' := by
  rw [IsSilent, trim_append_cons hbefore hblank, List.head?_cons]
  exact ⟨fun h => h c rfl, fun h d hd => Option.some.inj hd ▸ h⟩

/-- The silent lines are the blank ones, and those whose first character behind any blanks is
`#`. -/
theorem isSilent_iff {line : List Char} :
    IsSilent line ↔
      OnlyBlanks line ∨ ∃ before rest, OnlyBlanks before ∧ line = before ++ '#' :: rest := by
  constructor
  · intro h
    by_cases hblank : OnlyBlanks line
    · exact .inl hblank
    · obtain ⟨before, c, rest, hbefore, hc, rfl⟩ := exists_first_of_not_onlyBlanks hblank
      obtain rfl := (isSilent_append_cons_iff hbefore hc).mp h
      exact .inr ⟨before, rest, hbefore, rfl⟩
  · rintro (hblank | ⟨before, rest, hbefore, rfl⟩)
    · rw [IsSilent, trim_eq_nil_iff.mpr hblank]
      exact fun c hc => absurd hc (Option.not_mem_none c)
    · exact (isSilent_append_cons_iff hbefore isBlank_hash).mpr rfl

/-! ### Key lines -/

theorem isOneLine_of_notMem {s : List Char} (h : '\n' ∉ s) : isOneLine s = true := by
  refine List.all_eq_true.mpr fun c hc => decide_eq_true ?_
  rintro rfl
  exact h ((List.dropLast_sublist s).subset hc)

/-- A line with a key opens a list if nothing follows the colon, and carries a value otherwise. -/
theorem classify_key {key : List Char} (hkey : IsKey key) {rest : List Char} (hrest : '\n' ∉ rest) :
    Line.classify (key ++ ':' :: rest) =
      match trim rest with
      | [] => .openList (String.ofList key)
      | value => .scalar (String.ofList key) (String.ofList (unquote value)) := by
  have hsplit : splitKey? (key ++ ':' :: rest) = some (key, rest) :=
    splitKey?_eq_some_iff.mpr ⟨hkey, rfl⟩
  have hsilent : ¬ IsSilent (key ++ ':' :: rest) := by
    obtain ⟨start, more, rfl, hstart, -⟩ := hkey
    have hhash : start ≠ '#' := by
      rintro rfl
      exact absurd hstart (by decide)
    have hfirst : IsSilent ([] ++ start :: (more ++ ':' :: rest)) ↔ start = '#' :=
      isSilent_append_cons_iff onlyBlanks_nil (isBlank_of_isKeyStart hstart)
    exact mt hfirst.mp hhash
  rw [classify_of_not_silent hsilent, hsplit]
  exact if_pos (isOneLine_of_notMem hrest)

/-! ### Lines with a dash -/

/-- What follows the dash of a line is what follows the dash that ends its blanks. -/
theorem afterDash?_eq_some_iff {line rest : List Char} :
    afterDash? line = some rest ↔ ∃ before, OnlyBlanks before ∧ line = before ++ '-' :: rest := by
  constructor
  · intro h
    obtain ⟨before, hbefore, hline⟩ := exists_blanks_ahead line
    rw [afterDash?] at h
    split at h
    · next more hmore =>
      obtain rfl := Option.some.inj h
      exact ⟨before, hbefore, hmore ▸ hline⟩
    · exact absurd h (Option.some_ne_none _).symm
  · rintro ⟨before, hbefore, rfl⟩
    have hstart : trimStart (before ++ '-' :: rest) = '-' :: rest := by
      rw [trimStart_append_of_blank hbefore]
      exact trimStart_eq_self fun c hc => Option.some.inj hc ▸ isBlank_hyphen
    rw [afterDash?, hstart]
    rfl

/-- A line whose first character behind its blanks is a dash has no key. -/
private theorem splitKey?_dash {before : List Char} (hbefore : OnlyBlanks before)
    (rest : List Char) :
    splitKey? (before ++ '-' :: rest) = none := by
  rw [Option.eq_none_iff_forall_ne_some]
  rintro ⟨key, more⟩ h
  obtain ⟨⟨start, key, rfl, hstart, -⟩, hline⟩ := splitKey?_eq_some_iff.mp h
  -- the first character of the line would have to start a key
  cases before with
  | nil =>
    obtain ⟨rfl, -⟩ := List.cons_eq_cons.mp hline
    exact absurd hstart (by decide)
  | cons c before =>
    obtain ⟨rfl, -⟩ := List.cons_eq_cons.mp hline
    have hblank : isBlank c = true := hbefore c List.mem_cons_self
    rw [isBlank_of_isKeyStart hstart] at hblank
    exact Bool.false_ne_true hblank

/-- A line with a dash is an item if what follows the dash has a value. -/
theorem classify_dash {before : List Char} (hbefore : OnlyBlanks before) (rest : List Char) :
    Line.classify (before ++ '-' :: rest) =
      match itemValue? rest with
      | some value => .item (String.ofList value)
      | none => .unrecognized := by
  have hsilent : ¬ IsSilent (before ++ '-' :: rest) :=
    mt (isSilent_append_cons_iff hbefore isBlank_hyphen).mp (by decide)
  have hafter : afterDash? (before ++ '-' :: rest) = some rest :=
    afterDash?_eq_some_iff.mpr ⟨before, hbefore, rfl⟩
  rw [classify_of_not_silent hsilent, splitKey?_dash hbefore, Line.classifyItem, hafter]
  rfl

/-- The value of an item is what follows its dash, without blanks around it and without quotes. -/
theorem itemValue?_of_value {rest : List Char} (h : ¬ OnlyBlanks rest) (hline : '\n' ∉ rest) :
    itemValue? rest = some (unquote (trim rest)) := by
  have hall : (trim rest).all (fun c => c ≠ '\n') = true := by
    refine List.all_eq_true.mpr fun c hc => decide_eq_true ?_
    rintro rfl
    exact hline (mem_of_mem_trim hc)
  rw [itemValue?]
  split
  · next hnil => exact absurd (trim_eq_nil_iff.mp hnil) h
  · exact if_pos hall

/-- Where only blanks follow the dash, the last one stands for the value. -/
theorem itemValue?_of_onlyBlanks {rest : List Char} (h : OnlyBlanks rest) (hline : '\n' ∉ rest) :
    itemValue? rest = rest.getLast?.map fun c => [c] := by
  have hfilter : rest.filter (fun c => c ≠ '\n') = rest :=
    List.filter_eq_self.mpr fun c hc => decide_eq_true fun hn => hline (hn ▸ hc)
  rw [itemValue?, trim_eq_nil_iff.mpr h]
  dsimp only
  rw [hfilter]

end Rulebook.Frontmatter
