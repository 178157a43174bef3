import Rulebook.Proofs.Frontmatter.Delimited
import Rulebook.Proofs.Frontmatter.Entries
import Rulebook.Proofs.Frontmatter.Grammar

/-!
# Written metadata

Metadata can be written out as frontmatter in more than one way: a value may stand in quotes of
either kind or, if it is plain enough, without any, and the items of a list may be indented. The
relations `WritesValue`, `WritesItem` and `WritesEntry` say which lines state a value, an item and
an entry.

**Main fact.** `parse_of_writesEntry`: whichever way is taken, a file that opens with the written
entries has a block, and the metadata of the block is what was written.

The proof has one lemma for the kind of each written line, and one for what the lines of an entry
do to the metadata that was read before. The list of an earlier entry may still be open then, which
is no harm: no item comes before the next key.
-/

namespace Rulebook.Frontmatter

open Text

/-! ### Ways to write metadata -/

/-- `WritesValue value s` means that `s` is a way to write the value. -/
inductive WritesValue (value : List Char) : List Char → Prop
  /-- In quotes, whatever the value holds. -/
  | quoted (quote : Char) (hquote : isQuote quote = true) (hline : '\n' ∉ value) :
    WritesValue value (quote :: (value ++ [quote]))
  /-- As it is, if there is something that shows where it starts and ends. -/
  | bare (hline : '\n' ∉ value) (hne : value ≠ [])
    (hstart : ∀ c ∈ value.head?, isBlank c = false)
    (hend : ∀ c ∈ value.getLast?, isBlank c = false) (hplain : ¬ InQuotes value) :
    WritesValue value value

/-- `WritesItem value line` means that the line states the value as an item, behind any number of
spaces. -/
inductive WritesItem (value : List Char) : List Char → Prop
  | dash (indent : Nat) {s : List Char} (h : WritesValue value s) :
    WritesItem value (List.replicate indent ' ' ++ '-' :: ' ' :: s)

/-- `WritesEntry entry ls` means that the lines `ls` state the entry. -/
inductive WritesEntry : String × Value → List (List Char) → Prop
  /-- A text is written behind its key. -/
  | text {key value : String} (hkey : IsKey key.toList) {s : List Char}
    (h : WritesValue value.toList s) :
    WritesEntry (key, .text value) [key.toList ++ ':' :: ' ' :: s]
  /-- The items of a list are written below its key. -/
  | list {key : String} (hkey : IsKey key.toList) {items : List String} {ls : List (List Char)}
    (h : List.Forall₂ (fun item line => WritesItem item.toList line) items ls) :
    WritesEntry (key, .list (items.map .text)) ((key.toList ++ [':']) :: ls)

/-! ### Written values -/

namespace WritesValue

variable {value s : List Char}

private theorem notMem (h : WritesValue value s) : '\n' ∉ s := by
  cases h with
  | bare hline => exact hline
  | quoted quote hquote hline =>
    have hne : '\n' ≠ quote := by
      rintro rfl
      exact absurd hquote (by decide)
    simp [hne, hline]

private theorem isBlank_head? (h : WritesValue value s) : ∀ c ∈ s.head?, isBlank c = false := by
  cases h with
  | bare _ _ hstart => exact hstart
  | quoted _ hquote => exact fun c hc => isBlank_of_isQuote (Option.some.inj hc ▸ hquote)

private theorem isBlank_getLast? (h : WritesValue value s) :
    ∀ c ∈ s.getLast?, isBlank c = false := by
  cases h with
  | bare _ _ _ hend => exact hend
  | quoted _ hquote =>
    intro c hc
    rw [← List.cons_append, List.getLast?_concat] at hc
    exact isBlank_of_isQuote (Option.some.inj hc ▸ hquote)

private theorem ne_nil (h : WritesValue value s) : s ≠ [] := by
  cases h with
  | bare _ hne => exact hne
  | quoted => exact List.cons_ne_nil _ _

private theorem unquote_eq (h : WritesValue value s) : unquote s = value := by
  cases h with
  | bare _ _ _ _ hplain => exact unquote_of_not_inQuotes hplain
  | quoted _ hquote => exact unquote_inQuotes hquote value

/-- The space ahead of a written value is not part of it. -/
private theorem trim_eq (h : WritesValue value s) : trim (' ' :: s) = s := by
  have hspace : OnlyBlanks [' '] := List.forall_mem_singleton.mpr (by decide)
  exact (trim_append_of_blank hspace s).trans (trim_eq_self h.isBlank_head? h.isBlank_getLast?)

/-- What ends with a written value does not end with a blank. -/
private theorem isBlank_getLast?_of_suffix (h : WritesValue value s) {line : List Char}
    (hs : s <:+ line) :
    ∀ c ∈ line.getLast?, isBlank c = false := by
  obtain ⟨front, rfl⟩ := hs
  rw [List.getLast?_append_of_ne_nil _ h.ne_nil]
  exact h.isBlank_getLast?

end WritesValue

/-! ### The kinds of written lines -/

private theorem classify_writtenText {key value : String} (hkey : IsKey key.toList) {s : List Char}
    (h : WritesValue value.toList s) :
    Line.classify (key.toList ++ ':' :: ' ' :: s) = .scalar key value := by
  have hline : '\n' ∉ ' ' :: s := List.not_mem_cons_of_ne_of_not_mem (by decide) h.notMem
  rw [classify_key hkey hline, h.trim_eq]
  split
  · exact absurd rfl h.ne_nil
  · rw [h.unquote_eq, String.ofList_toList, String.ofList_toList]

private theorem classify_writtenKey {key : String} (hkey : IsKey key.toList) :
    Line.classify (key.toList ++ [':']) = .openList key := by
  rw [classify_key hkey List.not_mem_nil]
  exact congrArg Line.openList (String.ofList_toList)

private theorem onlyBlanks_replicate (n : Nat) : OnlyBlanks (List.replicate n ' ') := by
  intro c hc
  rw [List.eq_of_mem_replicate hc]
  decide

private theorem WritesItem.classify_eq {value : String} {line : List Char}
    (h : WritesItem value.toList line) : Line.classify line = .item value := by
  obtain ⟨indent, h⟩ := h
  next s =>
  have hline : '\n' ∉ ' ' :: s := List.not_mem_cons_of_ne_of_not_mem (by decide) h.notMem
  have hvalue : ¬ OnlyBlanks (' ' :: s) := by
    rw [← trim_eq_nil_iff, h.trim_eq]
    exact h.ne_nil
  rw [classify_dash (onlyBlanks_replicate indent), itemValue?_of_value hvalue hline, h.trim_eq,
    h.unquote_eq]
  exact congrArg Line.item String.ofList_toList

/-! ### Reading what was written -/

namespace Reading

/-- The items of a list go to the entry that was opened last. -/
private theorem foldl_writtenItems {items : List String} {ls : List (List Char)}
    (h : List.Forall₂ (fun item line => WritesItem item.toList line) items ls)
    {key : String} {entries : List (String × Value)} (hkey : key ∉ entries.map Prod.fst)
    (before : List Value) :
    (ls.map Line.classify).foldl step ⟨⟨entries ++ [(key, .list before)]⟩, some key⟩ =
      ⟨⟨entries ++ [(key, .list (before ++ items.map .text))]⟩, some key⟩ := by
  -- the entry that was opened last stays the last one, with more and more items
  induction h generalizing before with
  | nil => simp
  | cons hitem _ ih =>
    rw [List.map_cons, List.foldl_cons, hitem.classify_eq, step]
    dsimp only
    rw [Metadata.append_concat hkey, ih]
    simp

/-- The lines of an entry add it, if its key is new. -/
private theorem metadata_foldl_writtenEntry {entry : String × Value} {ls : List (List Char)}
    (h : WritesEntry entry ls) (r : Reading) (hkey : entry.1 ∉ r.metadata.keys) :
    ((ls.map Line.classify).foldl step r).metadata = ⟨r.metadata.entries ++ [entry]⟩ := by
  cases h with
  | text hgrammar hvalue =>
    rw [List.map_singleton, List.foldl_cons, List.foldl_nil, classify_writtenText hgrammar hvalue]
    exact Metadata.set_of_notMem hkey _
  | list hgrammar hitems =>
    rw [List.map_cons, List.foldl_cons, classify_writtenKey hgrammar, step,
      Metadata.set_of_notMem hkey, foldl_writtenItems hitems hkey]
    rfl

/-- Written entries are added one after the other. -/
private theorem metadata_foldl_writtenEntries {entries : List (String × Value)}
    {groups : List (List (List Char))} (h : List.Forall₂ WritesEntry entries groups) (r : Reading)
    (hkeys : (r.metadata.keys ++ entries.map Prod.fst).Nodup) :
    ((groups.flatten.map Line.classify).foldl step r).metadata =
      ⟨r.metadata.entries ++ entries⟩ := by
  -- whatever list the first entry leaves open, the next one starts with a key line
  induction h generalizing r with
  | nil => simp
  | @cons entry ls entries groups hentry _ ih =>
    have hkey : entry.1 ∉ r.metadata.keys := fun hmem =>
      (List.nodup_append.mp hkeys).2.2 _ hmem _ List.mem_cons_self rfl
    have hone := metadata_foldl_writtenEntry hentry r hkey
    rw [List.flatten_cons, List.map_append, List.foldl_append]
    generalize (ls.map Line.classify).foldl step r = r' at hone
    have hkeys' : (r'.metadata.keys ++ entries.map Prod.fst).Nodup := by
      rw [hone, Metadata.keys, List.map_append, List.map_singleton, List.append_assoc]
      exact hkeys
    rw [ih r' hkeys', hone, List.append_assoc, List.singleton_append]

end Reading

/-! ### The written file -/

/-- A line **fits into a block** when it is one line, does not end with a blank, and is no
delimiter. -/
structure FitsBlock (line : List Char) : Prop where
  notMem : '\n' ∉ line
  isBlank_getLast? : ∀ c ∈ line.getLast?, isBlank c = false
  ne_delimiter : line ≠ defaultDelimiter.toList

/-- No character of a key is a line feed. -/
private theorem IsKey.notMem {key : List Char} (h : IsKey key) : '\n' ∉ key := fun hmem =>
  absurd (h.forall_mem _ hmem) (by decide)

/-- A line with a colon is no delimiter. -/
private theorem ne_delimiter_of_colon {line : List Char} (h : ':' ∈ line) :
    line ≠ defaultDelimiter.toList := by
  rintro rfl
  exact absurd h (by decide)

private theorem WritesItem.fitsBlock {value line : List Char} (h : WritesItem value line) :
    FitsBlock line := by
  obtain ⟨indent, h⟩ := h
  next s =>
  refine ⟨?_, ?_, ?_⟩
  · have hindent : '\n' ∉ List.replicate indent ' ' := fun hmem =>
      absurd (List.eq_of_mem_replicate hmem) (by decide)
    simp [hindent, h.notMem]
  · exact h.isBlank_getLast?_of_suffix ⟨List.replicate indent ' ' ++ ['-', ' '], by simp⟩
  · -- the space behind the dash tells the line from a delimiter
    intro hdelimiter
    have hspace : ' ' ∈ defaultDelimiter.toList := hdelimiter ▸ by simp
    exact absurd hspace (by decide)

private theorem forall_mem_of_forall₂ {α β : Type} {R : α → β → Prop} {P : β → Prop}
    (hR : ∀ a b, R a b → P b) {as : List α} {bs : List β} (h : List.Forall₂ R as bs) :
    ∀ b ∈ bs, P b := by
  induction h with
  | nil => exact List.forall_mem_nil _
  | cons hab _ ih => exact List.forall_mem_cons.mpr ⟨hR _ _ hab, ih⟩

/-- Each line of an entry fits into a block. -/
private theorem WritesEntry.fitsBlock {entry : String × Value} {ls : List (List Char)}
    (h : WritesEntry entry ls) : ∀ l ∈ ls, FitsBlock l := by
  cases h with
  | @text key value hkey s hvalue =>
    refine List.forall_mem_singleton.mpr ⟨?_, ?_, ne_delimiter_of_colon (by simp)⟩
    · simp [hkey.notMem, hvalue.notMem]
    · exact hvalue.isBlank_getLast?_of_suffix ⟨key.toList ++ [':', ' '], by simp⟩
  | list hkey hitems =>
    refine List.forall_mem_cons.mpr ⟨⟨?_, ?_, ne_delimiter_of_colon (by simp)⟩, ?_⟩
    · simp [hkey.notMem]
    · intro c hc
      rw [List.getLast?_concat] at hc
      exact Option.some.inj hc ▸ isBlank_colon
    · exact forall_mem_of_forall₂ (fun _ _ hitem => hitem.fitsBlock) hitems

/-- Some lines between two delimiters, with a body behind them if there is one. -/
def delimited (ls : List (List Char)) (body : Option String) : String :=
  String.ofList (unlines (defaultDelimiter.toList :: (ls ++ [defaultDelimiter.toList])) ++
    body.elim [] fun s => '\n' :: s.toList)

/-- Lines that fit into a block are the block of the text that they open. -/
private theorem block?_delimited {ls : List (List Char)} (h : ∀ l ∈ ls, FitsBlock l)
    (body : Option String) :
    block? defaultDelimiter (delimited ls body) = some (String.ofList (unlines ls)) := by
  have hdelimiter : '\n' ∉ defaultDelimiter.toList ∧
      chomp defaultDelimiter.toList = defaultDelimiter.toList := by decide
  have hchomp : ∀ l ∈ ls, chomp l = l := fun l hl => chomp_eq_self (h l hl).isBlank_getLast?
  have hopen : ∀ l ∈ defaultDelimiter.toList :: (ls ++ [defaultDelimiter.toList]), '\n' ∉ l := by
    refine List.forall_mem_cons.mpr ⟨hdelimiter.1, List.forall_mem_append.mpr ⟨?_, ?_⟩⟩
    · exact fun l hl => (h l hl).notMem
    · exact List.forall_mem_singleton.mpr hdelimiter.1
  -- the body makes up what follows the closing delimiter
  refine block?_eq_some_iff.mpr ⟨defaultDelimiter.toList, ls, defaultDelimiter.toList,
    body.elim [] fun s => lines s.toList, ?_, hdelimiter.2, ?_, hdelimiter.2, ?_⟩
  · rw [delimited, String.toList_ofList]
    cases body with
    | none =>
      rw [Option.elim_none, List.append_nil, lines_unlines (List.cons_ne_nil _ _) hopen]
      rfl
    | some s =>
      rw [Option.elim_some, lines_unlines_append_newline (List.cons_ne_nil _ _) hopen]
      simp
  · exact fun l hl => (hchomp l hl).symm ▸ (h l hl).ne_delimiter
  · rw [List.map_congr_left hchomp, List.map_id']

/-- **Reading what was written.** However the entries are written, the file that they open has a
block, and the metadata of the block is those entries, in their order. -/
theorem parse_of_writesEntry {entries : List (String × Value)} {groups : List (List (List Char))}
    (h : List.Forall₂ WritesEntry entries groups) (hkeys : (entries.map Prod.fst).Nodup)
    (body : Option String) :
    ∃ block, block? defaultDelimiter (delimited groups.flatten body) = some block ∧
      Metadata.parse block = ⟨entries⟩ := by
  have hfits : ∀ l ∈ groups.flatten, FitsBlock l := by
    intro l hl
    obtain ⟨ls, hls, hl⟩ := List.mem_flatten.mp hl
    exact forall_mem_of_forall₂ (fun _ _ hentry => hentry.fitsBlock) h ls hls l hl
  refine ⟨_, block?_delimited hfits body, ?_⟩
  rw [parse_ofList_unlines fun l hl => (hfits l hl).notMem]
  exact Reading.metadata_foldl_writtenEntries h {} hkeys

/-- Values that look like a delimiter, a comment or an item come back, too. -/
theorem parse_of_written_lookalikes :
    ∃ block, block? defaultDelimiter (delimited
        ["name: \"---\"".toList, "paths:".toList, "  - '# a: b'".toList, "- \"\"".toList,
          "- - \"x".toList, "note: 'it's'".toList] (some "---")) = some block ∧
      Metadata.parse block = ⟨[("name", .text "---"),
        ("paths", .list [.text "# a: b", .text "", .text "- \"x"]), ("note", .text "it's")]⟩ := by
  have hname : WritesEntry ("name", .text "---") ["name: \"---\"".toList] := by
    have hkey : IsKey "name".toList := ⟨'n', "ame".toList, rfl, rfl, List.all_eq_true.mp rfl⟩
    exact .text hkey (.quoted '"' rfl (by decide))
  have hpaths : WritesEntry ("paths", .list (["# a: b", "", "- \"x"].map .text))
      ["paths:".toList, "  - '# a: b'".toList, "- \"\"".toList, "- - \"x".toList] := by
    have hkey : IsKey "paths".toList := ⟨'p', "aths".toList, rfl, rfl, List.all_eq_true.mp rfl⟩
    refine .list hkey (.cons ?_ (.cons ?_ (.cons ?_ .nil)))
    · exact .dash 2 (.quoted '\'' rfl (by decide))
    · exact .dash 0 (.quoted '"' rfl (by decide))
    · refine .dash 0 (.bare (by decide) (by decide) ?_ ?_ ?_)
      · intro c hc
        obtain rfl : '-' = c := Option.some.inj hc
        decide
      · intro c hc
        obtain rfl : 'x' = c := Option.some.inj hc
        decide
      · rintro ⟨quote, inner, hquote, hx⟩
        obtain rfl : '-' = quote := (List.cons_eq_cons.mp hx).1
        exact absurd hquote (by decide)
  have hnote : WritesEntry ("note", .text "it's") ["note: 'it's'".toList] := by
    have hkey : IsKey "note".toList := ⟨'n', "ote".toList, rfl, rfl, List.all_eq_true.mp rfl⟩
    exact .text hkey (.quoted '\'' rfl (by decide))
  exact parse_of_writesEntry (.cons hname (.cons hpaths (.cons hnote .nil))) (by decide)
    (some "---")

end Rulebook.Frontmatter
