import Rulebook.Proofs.Frontmatter.Entries
import Rulebook.Proofs.Frontmatter.Spelling

/-!
# The reading cursor

While a block is read, the cursor names the key whose list takes the next item. An item could be
misplaced in two ways: the key of the cursor might have no value, or a value that is no list.
Reading that refuses such an item is the same as reading that passes over it, because there is none.

**Main facts.** `Reading.IsSound.step` and `isSound_foldl`: each line keeps the reading sound, so
the cursor always stands on a list, every key is one by the grammar, and what is stored stays on one
line. `parse?_eq_ok`: so no item is ever refused.
-/

namespace Rulebook.Frontmatter

open Text

/-! ### Sound readings -/

/-- A value **fits on lines** when it is a text without a line feed, or a list of such texts. -/
def Value.FitsOnLines : Value → Prop
  | .text s => '\n' ∉ s.toList
  | .list items => ∀ item ∈ items, ∃ s, item = .text s ∧ '\n' ∉ s.toList
  | _ => False

/-- What has been read of a block is **sound** when the cursor stands on a list, the keys are keys,
and the values fit on lines. -/
structure Reading.IsSound (r : Reading) : Prop where
  /-- The key of the cursor has a list. -/
  openKey_list : ∀ key, r.openKey = some key → ∃ items, r.metadata.get? key = some (.list items)
  /-- Every key is one by the grammar. -/
  isKey : ∀ key ∈ r.metadata.keys, IsKey key.toList
  /-- No text that is stored holds a line feed. -/
  fitsOnLines : ∀ entry ∈ r.metadata.entries, entry.2.FitsOnLines

/-- What a line says is **sound** when its key is a key and its value holds no line feed. -/
def Line.IsSound : Line → Prop
  | .scalar key value => IsKey key.toList ∧ '\n' ∉ value.toList
  | .openList key => IsKey key.toList
  | .item value => '\n' ∉ value.toList
  | .ignored => True
  | .unrecognized => True

private theorem isSound_classify {line : List Char} (hline : '\n' ∉ line) :
    (Line.classify line).IsSound := by
  obtain ⟨l, hl⟩ : ∃ l, Line.classify line = l := ⟨_, rfl⟩
  have hspells := (classify_eq_iff_spells hline).mp hl
  rw [hl]
  cases l with
  | ignored => trivial
  | unrecognized => trivial
  | openList key =>
    obtain ⟨rest, hkey, -, -⟩ := spells_openList_iff.mp hspells
    exact hkey
  | scalar key value =>
    obtain ⟨rest, hkey, rfl, -, rfl⟩ := spells_scalar_iff.mp hspells
    refine ⟨hkey, fun hmem => hline ?_⟩
    rw [String.toList_ofList] at hmem
    exact List.mem_append_right _
      (List.mem_cons_of_mem _ (mem_of_mem_trim (mem_of_mem_unquote hmem)))
  | item value => exact fun hmem => hline (hspells.mem_of_item hmem)

/-! ### One line -/

/-- Binding a key leaves the new entry and others that were there. -/
private theorem Metadata.mem_entries_set {m : Metadata} {key : String} {value : Value}
    {e : String × Value} (h : e ∈ (m.set key value).entries) :
    e = (key, value) ∨ e ∈ m.entries := by
  have aux : ∀ es : List (String × Value), e ∈ bind key value es → e = (key, value) ∨ e ∈ es := by
    intro es he
    induction es with
    | nil => exact .inl (List.mem_singleton.mp he)
    | cons f es ih =>
      rw [bind] at he
      split at he
      · exact (List.mem_cons.mp he).imp_right (List.mem_cons_of_mem _)
      · rcases List.mem_cons.mp he with rfl | he
        · exact .inr List.mem_cons_self
        · exact (ih he).imp_right (List.mem_cons_of_mem _)
  exact aux m.entries h

namespace Reading.IsSound

variable {r : Reading}

theorem empty : IsSound {} where
  openKey_list _ h := absurd h.symm (Option.some_ne_none _)
  isKey _ h := absurd h List.not_mem_nil
  fitsOnLines _ h := absurd h List.not_mem_nil

/-- Keys and values stay sound when a key is bound to a value that fits on lines. -/
private theorem set (h : r.IsSound) (key : String) (value : Value) (hkey : IsKey key.toList)
    (hvalue : value.FitsOnLines) :
    (∀ k ∈ (r.metadata.set key value).keys, IsKey k.toList) ∧
      ∀ entry ∈ (r.metadata.set key value).entries, entry.2.FitsOnLines := by
  constructor
  · intro k hk
    obtain ⟨e, he, rfl⟩ := List.mem_map.mp hk
    rcases Metadata.mem_entries_set he with rfl | he
    · exact hkey
    · exact h.isKey _ (List.mem_map_of_mem he)
  · intro e he
    rcases Metadata.mem_entries_set he with rfl | he
    · exact hvalue
    · exact h.fitsOnLines e he

/-- An item goes to the list of the cursor. -/
private theorem exists_step_item_eq (h : r.IsSound) {key : String} (hopen : r.openKey = some key)
    (value : String) :
    ∃ items, r.metadata.get? key = some (.list items) ∧
      r.step (.item value) = ⟨r.metadata.set key (.list (items ++ [.text value])), some key⟩ := by
  obtain ⟨items, hitems⟩ := h.openKey_list key hopen
  refine ⟨items, hitems, ?_⟩
  rw [Reading.step, hopen]
  dsimp only
  rw [Metadata.append_eq, hitems]

/-- **Each line keeps the reading sound.** -/
theorem step (h : r.IsSound) {l : Line} (hl : l.IsSound) : (r.step l).IsSound := by
  cases l with
  | ignored => exact h
  | unrecognized => exact h
  | scalar key value =>
    obtain ⟨hkeys, hvalues⟩ := h.set key (.text value) hl.1 hl.2
    refine ⟨fun k hk => ?_, hkeys, hvalues⟩
    -- the list of this key is open no longer, and the others are still there
    rw [Reading.step] at hk ⊢
    dsimp only at hk ⊢
    split at hk
    · exact absurd hk.symm (Option.some_ne_none k)
    · next hne =>
      obtain ⟨items, hitems⟩ := h.openKey_list k hk
      refine ⟨items, ?_⟩
      rwa [Metadata.get?_set_of_ne _ fun heq => hne (hk.trans (congrArg some heq))]
  | openList key =>
    obtain ⟨hkeys, hvalues⟩ := h.set key (.list []) hl (List.forall_mem_nil _)
    refine ⟨fun k hk => ?_, hkeys, hvalues⟩
    obtain rfl := Option.some.inj hk
    exact ⟨[], Metadata.get?_set_self _ _ _⟩
  | item value =>
    cases hopen : r.openKey with
    | none =>
      rw [Reading.step, hopen]
      exact h
    | some key =>
      obtain ⟨items, hitems, hstep⟩ := h.exists_step_item_eq hopen value
      obtain ⟨k, hk⟩ := Metadata.mem_of_get? hitems
      have hkey : IsKey key.toList := by
        refine h.isKey key ((Metadata.isSome_get?_iff _ _).mp ?_)
        rw [hitems]
        rfl
      have hlist : (Value.list (items ++ [.text value])).FitsOnLines :=
        List.forall_mem_append.mpr
          ⟨h.fitsOnLines _ hk, List.forall_mem_singleton.mpr ⟨value, rfl, hl⟩⟩
      obtain ⟨hkeys, hvalues⟩ := h.set key _ hkey hlist
      rw [hstep]
      refine ⟨fun other hother => ?_, hkeys, hvalues⟩
      obtain rfl := Option.some.inj hother
      exact ⟨_, Metadata.get?_set_self _ _ _⟩

end Reading.IsSound

/-! ### Many lines -/

/-- **What has been read is sound** after any number of lines. -/
theorem Reading.IsSound.foldl {r : Reading} (h : r.IsSound) {ls : List Line}
    (hls : ∀ l ∈ ls, l.IsSound) : (ls.foldl Reading.step r).IsSound := by
  induction ls generalizing r with
  | nil => exact h
  | cons l ls ih =>
    obtain ⟨hl, hls⟩ := List.forall_mem_cons.mp hls
    exact ih (h.step hl) hls

theorem isSound_of_mem_linesOf {block : String} {l : Line} (h : l ∈ linesOf block) : l.IsSound := by
  obtain ⟨line, hline, rfl⟩ := List.mem_map.mp h
  exact isSound_classify (newline_notMem_of_mem_lines hline)

/-! ### Reading with refusals -/

/-- In a sound reading no item is misplaced. -/
private theorem Reading.IsSound.step?_eq_ok {r : Reading} (h : r.IsSound) (l : Line) :
    r.step? l = .ok (r.step l) := by
  cases l with
  | item value =>
    cases hopen : r.openKey with
    | none => rw [Reading.step?, Reading.step, hopen]
    | some key =>
      obtain ⟨items, hitems, hstep⟩ := h.exists_step_item_eq hopen value
      rw [hstep, Reading.step?, hopen]
      dsimp only
      rw [Metadata.append?, hitems]
      rfl
  | _ => rfl

private theorem Reading.IsSound.foldlM_step? {r : Reading} (h : r.IsSound) {ls : List Line}
    (hls : ∀ l ∈ ls, l.IsSound) : ls.foldlM Reading.step? r = .ok (ls.foldl Reading.step r) := by
  induction ls generalizing r with
  | nil => rfl
  | cons l ls ih =>
    obtain ⟨hl, hls⟩ := List.forall_mem_cons.mp hls
    rw [List.foldlM_cons, h.step?_eq_ok]
    exact ih (h.step hl) hls

/-- **No item of a block is misplaced.** -/
theorem parse?_eq_ok (block : String) : Metadata.parse? block = .ok (Metadata.parse block) := by
  rw [Metadata.parse?, Reading.IsSound.empty.foldlM_step? fun _ => isSound_of_mem_linesOf]
  rfl

end Rulebook.Frontmatter
