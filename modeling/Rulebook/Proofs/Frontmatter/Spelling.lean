import Rulebook.Proofs.Frontmatter.Patterns

/-!
# The grammar of lines

`Line.classify` tries one form after the other, as `Line.matched` tries one pattern after the other.
The relation `Spells` has one case for each form that a line may take, in any order, and one for the
lines that take none of them. It is said without trying anything: what stands ahead of the dash or
the colon and what stands behind it decides.

**Main fact.** `classify_follows_grammar`: a line is read as what it spells, so that the conditions
under which a line is ignored, states a key, opens a list, is an item or is not understood can be
read off the grammar.

The proof has two halves. Whatever a line spells is what it is read as (`Spells.classify_eq`, one
case per form), and every line spells something (`exists_spells`). Since a line is read as one thing
only, nothing more is needed.
-/

namespace Rulebook.Frontmatter

open Text

/-- `Spells line l` means that the characters `line` are a way to write `l`. -/
inductive Spells : List Char → Line → Prop
  /-- Nothing but blanks. -/
  | blank {line : List Char} (h : OnlyBlanks line) : Spells line .ignored
  /-- A comment, behind any blanks. -/
  | comment {before : List Char} (h : OnlyBlanks before) (rest : List Char) :
    Spells (before ++ '#' :: rest) .ignored
  /-- A key at the first column, with nothing but blanks behind its colon. -/
  | openList {key rest : List Char} (hkey : IsKey key) (hrest : OnlyBlanks rest) :
    Spells (key ++ ':' :: rest) (.openList (String.ofList key))
  /-- A key at the first column, with a value behind its colon. -/
  | scalar {key rest : List Char} (hkey : IsKey key) (hrest : ¬ OnlyBlanks rest) :
    Spells (key ++ ':' :: rest) (.scalar (String.ofList key) (String.ofList (unquote (trim rest))))
  /-- A dash behind any blanks, with a value behind it. -/
  | item {before rest : List Char} (hbefore : OnlyBlanks before) (hrest : ¬ OnlyBlanks rest) :
    Spells (before ++ '-' :: rest) (.item (String.ofList (unquote (trim rest))))
  /-- A dash among blanks, the last of which is the value. -/
  | blankItem {before rest : List Char} {c : Char} (hbefore : OnlyBlanks before)
    (hrest : OnlyBlanks rest) (hlast : rest.getLast? = some c) :
    Spells (before ++ '-' :: rest) (.item (String.ofList [c]))
  /-- None of these. -/
  | unrecognized {line : List Char} (hblank : ¬ OnlyBlanks line)
    (hcomment : ∀ before rest, OnlyBlanks before → line ≠ before ++ '#' :: rest)
    (hkey : ∀ key rest, IsKey key → line ≠ key ++ ':' :: rest)
    (hdash : ∀ before rest, OnlyBlanks before → rest ≠ [] → line ≠ before ++ '-' :: rest) :
    Spells line .unrecognized

/-- A line without a form has no key, and nothing behind its dash. -/
private theorem classify_of_no_form {line : List Char} (hblank : ¬ OnlyBlanks line)
    (hcomment : ∀ before rest, OnlyBlanks before → line ≠ before ++ '#' :: rest)
    (hkey : ∀ key rest, IsKey key → line ≠ key ++ ':' :: rest)
    (hdash : ∀ before rest, OnlyBlanks before → rest ≠ [] → line ≠ before ++ '-' :: rest) :
    Line.classify line = .unrecognized := by
  have hsilent : ¬ IsSilent line := by
    rw [isSilent_iff]
    rintro (h | ⟨before, rest, hbefore, h⟩)
    · exact hblank h
    · exact hcomment before rest hbefore h
  have hsplit : splitKey? line = none := by
    rw [Option.eq_none_iff_forall_ne_some]
    rintro ⟨key, rest⟩ h
    obtain ⟨hk, hl⟩ := splitKey?_eq_some_iff.mp h
    exact hkey key rest hk hl
  have hitem : (afterDash? line).bind itemValue? = none := by
    cases hafter : afterDash? line with
    | none => rfl
    | some rest =>
      obtain ⟨before, hbefore, hl⟩ := afterDash?_eq_some_iff.mp hafter
      obtain rfl : rest = [] := by
        by_contra hne
        exact hdash before rest hbefore hne hl
      rfl
  rw [classify_of_not_silent hsilent, hsplit, Line.classifyItem, hitem]

/-- A line is read as what it spells. -/
theorem Spells.classify_eq {line : List Char} {l : Line} (h : Spells line l) (hline : '\n' ∉ line) :
    Line.classify line = l := by
  have hbehind {before rest : List Char} {c : Char} (hl : '\n' ∉ before ++ c :: rest) :
      '\n' ∉ rest := fun hmem => hl (List.mem_append_right _ (List.mem_cons_of_mem _ hmem))
  cases h with
  | blank h => exact classify_of_silent (isSilent_iff.mpr (.inl h))
  | comment h rest => exact classify_of_silent (isSilent_iff.mpr (.inr ⟨_, rest, h, rfl⟩))
  | openList hkey hrest => rw [classify_key hkey (hbehind hline), trim_eq_nil_iff.mpr hrest]
  | scalar hkey hrest =>
    rw [classify_key hkey (hbehind hline)]
    split
    · next hnil => exact absurd (trim_eq_nil_iff.mp hnil) hrest
    · rfl
  | item hbefore hrest => rw [classify_dash hbefore, itemValue?_of_value hrest (hbehind hline)]
  | blankItem hbefore hrest hlast =>
    rw [classify_dash hbefore, itemValue?_of_onlyBlanks hrest (hbehind hline), hlast]
    rfl
  | unrecognized hblank hcomment hkey hdash =>
    exact classify_of_no_form hblank hcomment hkey hdash

/-- Every line spells something. -/
theorem exists_spells (line : List Char) : ∃ l, Spells line l := by
  by_cases hblank : OnlyBlanks line
  · exact ⟨_, .blank hblank⟩
  by_cases hcomment : ∃ before rest, OnlyBlanks before ∧ line = before ++ '#' :: rest
  · obtain ⟨before, rest, hbefore, rfl⟩ := hcomment
    exact ⟨_, .comment hbefore rest⟩
  by_cases hkey : ∃ key rest, IsKey key ∧ line = key ++ ':' :: rest
  · obtain ⟨key, rest, hkey, rfl⟩ := hkey
    by_cases hrest : OnlyBlanks rest
    · exact ⟨_, .openList hkey hrest⟩
    · exact ⟨_, .scalar hkey hrest⟩
  by_cases hdash : ∃ before rest, OnlyBlanks before ∧ rest ≠ [] ∧ line = before ++ '-' :: rest
  · obtain ⟨before, rest, hbefore, hne, rfl⟩ := hdash
    by_cases hrest : OnlyBlanks rest
    · exact ⟨_, .blankItem hbefore hrest (List.getLast?_eq_some_getLast hne)⟩
    · exact ⟨_, .item hbefore hrest⟩
  · refine ⟨_, .unrecognized hblank ?_ ?_ ?_⟩
    · exact fun before rest hbefore h => hcomment ⟨before, rest, hbefore, h⟩
    · exact fun key rest hk h => hkey ⟨key, rest, hk, h⟩
    · exact fun before rest hbefore hne h => hdash ⟨before, rest, hbefore, hne, h⟩

/-- The kind of a line is what the line spells. -/
theorem classify_eq_iff_spells {line : List Char} (hline : '\n' ∉ line) {l : Line} :
    Line.classify line = l ↔ Spells line l := by
  refine ⟨?_, fun h => h.classify_eq hline⟩
  rintro rfl
  obtain ⟨l, h⟩ := exists_spells line
  rwa [h.classify_eq hline]

/-! ### What each kind takes -/

section Inversion

variable {line : List Char} {key value : String}

private theorem spells_ignored_iff :
    Spells line .ignored ↔
      OnlyBlanks line ∨ ∃ before rest, OnlyBlanks before ∧ line = before ++ '#' :: rest := by
  constructor
  · intro h
    cases h with
    | blank h => exact .inl h
    | comment h rest => exact .inr ⟨_, rest, h, rfl⟩
  · rintro (h | ⟨before, rest, h, rfl⟩)
    · exact .blank h
    · exact .comment h rest

theorem spells_openList_iff :
    Spells line (.openList key) ↔
      ∃ rest, IsKey key.toList ∧ line = key.toList ++ ':' :: rest ∧ OnlyBlanks rest := by
  constructor
  · intro h
    cases h with
    | openList hkey hrest =>
      rw [String.toList_ofList]
      exact ⟨_, hkey, rfl, hrest⟩
  · rintro ⟨rest, hkey, rfl, hrest⟩
    have h := Spells.openList hkey hrest
    rwa [String.ofList_toList] at h

theorem spells_scalar_iff :
    Spells line (.scalar key value) ↔
      ∃ rest, IsKey key.toList ∧ line = key.toList ++ ':' :: rest ∧ ¬ OnlyBlanks rest ∧
        value = String.ofList (unquote (trim rest)) := by
  constructor
  · intro h
    cases h with
    | scalar hkey hrest =>
      rw [String.toList_ofList]
      exact ⟨_, hkey, rfl, hrest, rfl⟩
  · rintro ⟨rest, hkey, rfl, hrest, rfl⟩
    have h := Spells.scalar hkey hrest
    rwa [String.ofList_toList] at h

/-- What stands behind a dash **gives** a value: without the blanks around it and without quotes, or
its last character if it is blank. -/
def GivesValue (rest : List Char) (value : String) : Prop :=
  (¬ OnlyBlanks rest ∧ value = String.ofList (unquote (trim rest))) ∨
    (OnlyBlanks rest ∧ ∃ c, rest.getLast? = some c ∧ value = String.ofList [c])

/-- There is a value behind a dash if there is anything behind it. -/
private theorem exists_givesValue_iff {rest : List Char} :
    (∃ value, GivesValue rest value) ↔ rest ≠ [] := by
  constructor
  · rintro ⟨value, ⟨hrest, -⟩ | ⟨-, c, hlast, -⟩⟩
    · rintro rfl
      exact hrest onlyBlanks_nil
    · rintro rfl
      exact Option.some_ne_none c hlast.symm
  · intro hne
    by_cases hrest : OnlyBlanks rest
    · exact ⟨_, .inr ⟨hrest, _, List.getLast?_eq_some_getLast hne, rfl⟩⟩
    · exact ⟨_, .inl ⟨hrest, rfl⟩⟩

private theorem spells_item_iff :
    Spells line (.item value) ↔
      ∃ before rest, OnlyBlanks before ∧ line = before ++ '-' :: rest ∧ GivesValue rest value := by
  constructor
  · intro h
    cases h with
    | item hbefore hrest => exact ⟨_, _, hbefore, rfl, .inl ⟨hrest, rfl⟩⟩
    | blankItem hbefore hrest hlast => exact ⟨_, _, hbefore, rfl, .inr ⟨hrest, _, hlast, rfl⟩⟩
  · rintro ⟨before, rest, hbefore, rfl, ⟨hrest, rfl⟩ | ⟨hrest, c, hlast, rfl⟩⟩
    · exact .item hbefore hrest
    · exact .blankItem hbefore hrest hlast

/-- The value of an item holds nothing that does not stand in its line. -/
theorem Spells.mem_of_item (h : Spells line (.item value)) {c : Char} (hc : c ∈ value.toList) :
    c ∈ line := by
  obtain ⟨before, rest, -, rfl, hvalue⟩ := spells_item_iff.mp h
  refine List.mem_append_right _ (List.mem_cons_of_mem _ ?_)
  rcases hvalue with ⟨-, rfl⟩ | ⟨-, d, hlast, rfl⟩
  · rw [String.toList_ofList] at hc
    exact mem_of_mem_trim (mem_of_mem_unquote hc)
  · rw [String.toList_ofList] at hc
    exact List.mem_singleton.mp hc ▸ List.mem_of_getLast? hlast

/-- What is left over is not understood. -/
private theorem spells_unrecognized_iff :
    Spells line .unrecognized ↔
      ¬ Spells line .ignored ∧ (∀ key rest, IsKey key → line ≠ key ++ ':' :: rest) ∧
        ∀ before rest, OnlyBlanks before → rest ≠ [] → line ≠ before ++ '-' :: rest := by
  rw [spells_ignored_iff, not_or]
  constructor
  · intro h
    cases h with
    | unrecognized hblank hcomment hkey hdash =>
      refine ⟨⟨hblank, ?_⟩, hkey, hdash⟩
      rintro ⟨before, rest, hbefore, h⟩
      exact hcomment before rest hbefore h
  · rintro ⟨⟨hblank, hcomment⟩, hkey, hdash⟩
    exact .unrecognized hblank (fun before rest hbefore h => hcomment ⟨before, rest, hbefore, h⟩)
      hkey hdash

end Inversion

/-- **Lines are read by the grammar**, whether they are taken apart or matched with the patterns. A
line is ignored if it is blank or a comment; it opens a list if it is a key and a colon; it states a
value if something follows the colon; it is an item if it starts with a dash and something follows;
otherwise it is not understood. A line has at most one key. A value loses the quotes that it stands
in, and nothing else. -/
theorem classify_follows_grammar {line : List Char} (hline : '\n' ∉ line) :
    Line.classify line = Line.matched line ∧
    (Line.classify line = .ignored ↔
      OnlyBlanks line ∨ ∃ before rest, OnlyBlanks before ∧ line = before ++ '#' :: rest) ∧
    (∀ key, Line.classify line = .openList key ↔
      ∃ rest, IsKey key.toList ∧ line = key.toList ++ ':' :: rest ∧ OnlyBlanks rest) ∧
    (∀ key value, Line.classify line = .scalar key value ↔
      ∃ rest, IsKey key.toList ∧ line = key.toList ++ ':' :: rest ∧ ¬ OnlyBlanks rest ∧
        value = String.ofList (unquote (trim rest))) ∧
    ((∃ value, Line.classify line = .item value) ↔
      ∃ before rest, OnlyBlanks before ∧ line = before ++ '-' :: rest ∧ rest ≠ []) ∧
    (∀ value, Line.classify line = .item value ↔
      ∃ before rest, OnlyBlanks before ∧ line = before ++ '-' :: rest ∧ GivesValue rest value) ∧
    (Line.classify line = .unrecognized ↔
      Line.classify line ≠ .ignored ∧ (∀ key rest, IsKey key → line ≠ key ++ ':' :: rest) ∧
        ∀ before rest, OnlyBlanks before → rest ≠ [] → line ≠ before ++ '-' :: rest) ∧
    (∀ key rest key' rest', IsKey key → IsKey key' → line = key ++ ':' :: rest →
      line = key' ++ ':' :: rest' → key = key' ∧ rest = rest') ∧
    (∀ quote inner, isQuote quote = true → unquote (quote :: (inner ++ [quote])) = inner) ∧
    ∀ value, ¬ InQuotes value → unquote value = value := by
  refine ⟨classify_eq_matched line, ?_⟩
  simp only [ne_eq, classify_eq_iff_spells hline]
  refine ⟨spells_ignored_iff, fun _ => spells_openList_iff, fun _ _ => spells_scalar_iff, ?_,
    fun _ => spells_item_iff, spells_unrecognized_iff, ?_,
    fun _ inner hquote => unquote_inQuotes hquote inner, fun _ => unquote_of_not_inQuotes⟩
  · simp only [spells_item_iff]
    constructor
    · rintro ⟨value, before, rest, hbefore, hdash, hvalue⟩
      exact ⟨before, rest, hbefore, hdash, exists_givesValue_iff.mp ⟨value, hvalue⟩⟩
    · rintro ⟨before, rest, hbefore, hdash, hne⟩
      obtain ⟨value, hvalue⟩ := exists_givesValue_iff.mpr hne
      exact ⟨value, before, rest, hbefore, hdash, hvalue⟩
  · intro key rest key' rest' hkey hkey' h h'
    have hsplit := splitKey?_eq_some_iff.mpr ⟨hkey, h⟩
    rw [splitKey?_eq_some_iff.mpr ⟨hkey', h'⟩] at hsplit
    obtain ⟨rfl, rfl⟩ := Prod.mk.inj (Option.some.inj hsplit)
    exact ⟨rfl, rfl⟩

/-- Where nothing but blanks follows a dash, the last of them is the value. -/
theorem classify_follows_grammar_of_dangling_dash :
    '\n' ∉ [' ', '-', '\u00a0', '\u3000'] ∧
      Line.classify [' ', '-', '\u00a0', '\u3000'] = .item "\u3000" := by
  have hline : '\n' ∉ [' ', '-', '\u00a0', '\u3000'] := by decide
  obtain ⟨-, -, -, -, -, hitem, -⟩ := classify_follows_grammar hline
  refine ⟨hline, (hitem _).mpr ⟨[' '], ['\u00a0', '\u3000'], by decide, rfl, .inr ⟨by decide, ?_⟩⟩⟩
  exact ⟨'\u3000', rfl, rfl⟩

end Rulebook.Frontmatter
