import Rulebook.Proofs.Frontmatter.Entries
import Mathlib.Data.List.Induction

/-!
# What a block says, by its key lines

A **key line** of a key carries a value for it or opens a list for it. `Metadata.parse` reads a
block with a cursor that moves from line to line; the same metadata can be told from the block as a
whole, by looking at the last key line of each key and, where it opens a list, at the lines up to
the next one that opens a list.

**Main fact.** `parse_by_key_lines`: the keys of a block are those of its key lines, in the order
of first mention; a key has the value of its last key line, or the items that follow it up to the
next line that opens a list; and no other item matters.

The proof follows one key through the block. From its last key line on, either the cursor is
elsewhere and the value of the key stays (`get?_foldl_of_closed`), or its list is open and gathers
items until another list opens (`foldl_of_open`).
-/

namespace Rulebook.Frontmatter

/-! ### Key lines, openings and items -/

/-- The key of a key line. -/
def Line.key? : Line → Option String
  | .scalar key _ => some key
  | .openList key => some key
  | _ => none

/-- Whether a line opens a list. -/
def Line.opensList : Line → Bool
  | .openList _ => true
  | _ => false

/-- The value of an item. -/
def Line.item? : Line → Option String
  | .item value => some value
  | _ => none

/-- There is no key line of `key` among the lines. -/
def NoKeyLine (key : String) (ls : List Line) : Prop :=
  ∀ l ∈ ls, l.key? ≠ some key

/-- The items up to the next line that opens a list. -/
def itemsUpToList (ls : List Line) : List Value :=
  ((ls.takeWhile fun l => !l.opensList).filterMap Line.item?).map .text

/-- What a key line says about its key, where `after` are the lines that follow it. -/
def Line.value? (after : List Line) : Line → Option Value
  | .scalar _ value => some (.text value)
  | .openList _ => some (.list (itemsUpToList after))
  | _ => none

/-- An item that stands after `before` and ahead of `after` is **gathered** when the last list that
was opened ahead of it belongs to a key that has no key line from there on. -/
def Gathered (before after : List Line) : Prop :=
  ∃ start key middle, before = start ++ .openList key :: middle ∧
    (∀ l ∈ middle, l.opensList = false) ∧ NoKeyLine key (middle ++ after)

private theorem NoKeyLine.of_cons {key : String} {l : Line} {ls : List Line}
    (h : NoKeyLine key (l :: ls)) : l.key? ≠ some key ∧ NoKeyLine key ls :=
  List.forall_mem_cons.mp h

/-- A line that opens no list adds its item, if it is one. -/
theorem itemsUpToList_cons {l : Line} (h : l.opensList = false) (ls : List Line) :
    itemsUpToList (l :: ls) = l.item?.toList.map .text ++ itemsUpToList ls := by
  rw [itemsUpToList, List.takeWhile_cons_of_pos (by simp [h]), List.filterMap_cons]
  cases l.item? <;> rfl

/-- A key with a key line has a last one. -/
theorem exists_last_keyLine {key : String} {ls : List Line} (h : ¬ NoKeyLine key ls) :
    ∃ before l after, ls = before ++ l :: after ∧ l.key? = some key ∧ NoKeyLine key after := by
  induction ls with
  | nil => exact absurd (fun l hl => absurd hl List.not_mem_nil) h
  | cons l ls ih =>
    by_cases hls : NoKeyLine key ls
    · refine ⟨[], l, ls, rfl, ?_, hls⟩
      by_contra hl
      exact h (List.forall_mem_cons.mpr ⟨hl, hls⟩)
    · obtain ⟨before, l', after, rfl, hl', hafter⟩ := ih hls
      exact ⟨l :: before, l', after, rfl, hl', hafter⟩

/-! ### One line -/

namespace Reading

/-- A key line binds its key, and no other line binds one. -/
private theorem keys_step (r : Reading) (l : Line) :
    (r.step l).metadata.keys =
      match l.key? with
      | some key =>
        if key ∈ r.metadata.keys then r.metadata.keys else r.metadata.keys ++ [key]
      | none => r.metadata.keys := by
  cases l with
  | ignored => rfl
  | unrecognized => rfl
  | scalar key value => exact Metadata.keys_set _ _ _
  | openList key => exact Metadata.keys_set _ _ _
  | item value =>
    rw [step]
    split
    · exact Metadata.keys_append _ _ _
    · rfl

/-- Only its own key lines open the list of a key. -/
private theorem openKey_step_ne {r : Reading} {key : String} (hr : r.openKey ≠ some key) {l : Line}
    (hl : l.key? ≠ some key) : (r.step l).openKey ≠ some key := by
  cases l with
  | ignored => exact hr
  | unrecognized => exact hr
  | scalar other value =>
    rw [step]
    dsimp only
    split
    · exact Option.some_ne_none key ∘ Eq.symm
    · exact hr
  | openList other => exact hl
  | item value =>
    rw [step]
    split <;> exact hr

/-- A key whose list is not open keeps its value through every line but its own key lines. -/
private theorem get?_step_of_closed {r : Reading} {key : String} (hr : r.openKey ≠ some key)
    {l : Line} (hl : l.key? ≠ some key) : (r.step l).metadata.get? key = r.metadata.get? key := by
  cases l with
  | ignored => rfl
  | unrecognized => rfl
  | scalar other value =>
    exact Metadata.get?_set_of_ne _ (fun h => hl (congrArg some h.symm)) _
  | openList other =>
    exact Metadata.get?_set_of_ne _ (fun h => hl (congrArg some h.symm)) _
  | item value =>
    rw [step]
    split
    · next other ho =>
      exact Metadata.get?_append_of_ne _ (fun h => hr (ho.trans (congrArg some h.symm))) _
    · rfl

/-- The open list takes up what the line has for it, and stays open, through every line but its own
key lines and those that open a list. -/
private theorem step_of_open {r : Reading} {key : String} {items : List Value}
    (ho : r.openKey = some key) (hr : r.metadata.get? key = some (.list items)) {l : Line}
    (hl : l.key? ≠ some key) (hopen : l.opensList = false) :
    (r.step l).openKey = some key ∧
      (r.step l).metadata.get? key = some (.list (items ++ l.item?.toList.map .text)) := by
  cases l with
  | ignored => exact ⟨ho, by simpa [step, Line.item?] using hr⟩
  | unrecognized => exact ⟨ho, by simpa [step, Line.item?] using hr⟩
  | scalar other value =>
    have hne : other ≠ key := fun h => hl (congrArg some h)
    constructor
    · rw [step]
      dsimp only
      rw [if_neg (fun h => hne (Option.some.inj (h.symm.trans ho))), ho]
    · rw [step, Metadata.get?_set_of_ne _ hne.symm, hr]
      simp [Line.item?]
  | openList other => exact absurd hopen (by simp [Line.opensList])
  | item value =>
    rw [step, ho]
    exact ⟨rfl, Metadata.get?_append_self hr _⟩

/-! ### Many lines -/

/-- Lines that are no key lines of a key whose list is not open leave its value as it is. -/
theorem get?_foldl_of_closed {r : Reading} {key : String} (hr : r.openKey ≠ some key)
    {ls : List Line} (hls : NoKeyLine key ls) :
    (ls.foldl step r).metadata.get? key = r.metadata.get? key := by
  induction ls generalizing r with
  | nil => rfl
  | cons l ls ih =>
    obtain ⟨hl, hls⟩ := hls.of_cons
    rw [List.foldl_cons, ih (openKey_step_ne hr hl) hls, get?_step_of_closed hr hl]

/-- A list that is open gathers the items up to the next line that opens a list. -/
private theorem get?_foldl_of_open {r : Reading} {key : String} {items : List Value}
    (ho : r.openKey = some key) (hr : r.metadata.get? key = some (.list items))
    {ls : List Line} (hls : NoKeyLine key ls) :
    (ls.foldl step r).metadata.get? key = some (.list (items ++ itemsUpToList ls)) := by
  induction ls generalizing r items with
  | nil => simpa [itemsUpToList] using hr
  | cons l ls ih =>
    obtain ⟨hl, hls⟩ := hls.of_cons
    rw [List.foldl_cons]
    cases hopen : l.opensList with
    | true =>
      -- another list opens, and from here on the value stays
      have hclosed : (r.step l).openKey ≠ some key := by
        cases l with
        | openList other => exact hl
        | _ => exact absurd hopen (by simp [Line.opensList])
      have hval : (r.step l).metadata.get? key = some (.list items) := by
        cases l with
        | openList other =>
          exact (Metadata.get?_set_of_ne _ (fun h => hl (congrArg some h.symm)) _).trans hr
        | _ => exact absurd hopen (by simp [Line.opensList])
      rw [get?_foldl_of_closed hclosed hls, hval]
      simp [itemsUpToList, hopen]
    | false =>
      obtain ⟨ho', hr'⟩ := step_of_open ho hr hl hopen
      rw [ih ho' hr' hls, itemsUpToList_cons hopen, List.append_assoc]

private theorem eraseDups_concat (keys : List String) (key : String) :
    (keys ++ [key]).eraseDups =
      if key ∈ keys.eraseDups then keys.eraseDups else keys.eraseDups ++ [key] := by
  rw [List.eraseDups_append]
  by_cases hk : key ∈ keys
  · have hnone : [key].removeAll keys = [] := by simp [List.removeAll, hk]
    rw [hnone, if_pos (List.mem_eraseDups.mpr hk), List.eraseDups_nil, List.append_nil]
  · have hone : [key].removeAll keys = [key] := by simp [List.removeAll, hk]
    rw [hone, if_neg (fun h => hk (List.mem_eraseDups.mp h))]
    rfl

/-- The keys after some lines are those of the key lines, in the order of first mention. -/
theorem keys_foldl (ls : List Line) :
    (ls.foldl step {}).metadata.keys = (ls.filterMap Line.key?).eraseDups := by
  induction ls using List.reverseRecOn with
  | nil => rfl
  | append_singleton ls l ih =>
    rw [List.foldl_append, List.foldl_cons, List.foldl_nil, keys_step, ih, List.filterMap_append,
      List.filterMap_cons]
    cases l.key? with
    | none => rw [List.filterMap_nil, List.append_nil]
    | some key => exact (eraseDups_concat _ key).symm

/-- A key has the value that its last key line says. -/
theorem get?_foldl_of_last {key : String} {before after : List Line} {l : Line}
    (hl : l.key? = some key) (h : NoKeyLine key after) :
    ((before ++ l :: after).foldl step {}).metadata.get? key = l.value? after := by
  rw [List.foldl_append, List.foldl_cons]
  generalize before.foldl step {} = r
  cases l with
  | scalar other value =>
    obtain rfl : other = key := Option.some.inj hl
    have hclosed : (r.step (.scalar other value)).openKey ≠ some other := by
      rw [step]
      dsimp only
      split
      · exact Option.some_ne_none other ∘ Eq.symm
      · assumption
    rw [get?_foldl_of_closed hclosed h]
    exact Metadata.get?_set_self _ _ _
  | openList other =>
    obtain rfl : other = key := Option.some.inj hl
    rw [get?_foldl_of_open (r := r.step (.openList other)) rfl (Metadata.get?_set_self _ _ _) h]
    rfl
  | _ => exact absurd hl (Option.some_ne_none key ∘ Eq.symm)

/-- A key without a key line has no value. -/
theorem get?_foldl_of_noKeyLine {key : String} {ls : List Line} (h : NoKeyLine key ls) :
    (ls.foldl step {}).metadata.get? key = none :=
  get?_foldl_of_closed (r := {}) (Option.some_ne_none key ∘ Eq.symm) h

/-- The keys after some lines are distinct. -/
theorem nodup_keys_foldl (ls : List Line) : (ls.foldl step {}).metadata.keys.Nodup := by
  induction ls using List.reverseRecOn with
  | nil => exact List.nodup_nil
  | append_singleton ls l ih =>
    rw [List.foldl_append, List.foldl_cons, List.foldl_nil, keys_step]
    split
    · next key _ =>
      split
      · exact ih
      · next hk =>
        refine List.nodup_append.mpr ⟨ih, List.pairwise_singleton _ key, fun a ha b hb hab => hk ?_⟩
        rwa [← List.mem_singleton.mp hb, ← hab]
    · exact ih

end Reading

/-! ### The value of a key -/

section Value

variable {block key : String}

/-- A key has a value when it has a key line, and the last one says which. -/
private theorem get?_parse_eq_some_iff {value : Value} :
    (Metadata.parse block).get? key = some value ↔
      ∃ before l after, linesOf block = before ++ l :: after ∧ l.key? = some key ∧
        NoKeyLine key after ∧ l.value? after = some value := by
  constructor
  · intro h
    by_cases hnone : NoKeyLine key (linesOf block)
    · rw [Metadata.parse, Reading.get?_foldl_of_noKeyLine hnone] at h
      exact absurd h (Option.some_ne_none _).symm
    · obtain ⟨before, l, after, hblock, hl, hafter⟩ := exists_last_keyLine hnone
      rw [Metadata.parse, hblock, Reading.get?_foldl_of_last hl hafter] at h
      exact ⟨before, l, after, hblock, hl, hafter, h⟩
  · rintro ⟨before, l, after, hblock, hl, hafter, hvalue⟩
    rw [Metadata.parse, hblock, Reading.get?_foldl_of_last hl hafter, hvalue]

/-- A key has a text when its last key line carries that text. -/
theorem get?_parse_eq_text_iff {value : String} :
    (Metadata.parse block).get? key = some (.text value) ↔
      ∃ before after, linesOf block = before ++ .scalar key value :: after ∧
        NoKeyLine key after := by
  rw [get?_parse_eq_some_iff]
  constructor
  · rintro ⟨before, l, after, hblock, hl, hafter, hvalue⟩
    cases l with
    | scalar other text =>
      obtain rfl := Option.some.inj hl
      obtain rfl := Value.text.inj (Option.some.inj hvalue)
      exact ⟨before, after, hblock, hafter⟩
    | openList => cases hvalue
    | _ => exact absurd hl (Option.some_ne_none key ∘ Eq.symm)
  · rintro ⟨before, after, hblock, hafter⟩
    exact ⟨before, _, after, hblock, rfl, hafter, rfl⟩

/-- A key has a list when its last key line opens one, and the items follow there. -/
theorem get?_parse_eq_list_iff {items : List Value} :
    (Metadata.parse block).get? key = some (.list items) ↔
      ∃ before after, linesOf block = before ++ .openList key :: after ∧
        NoKeyLine key after ∧ items = itemsUpToList after := by
  rw [get?_parse_eq_some_iff]
  constructor
  · rintro ⟨before, l, after, hblock, hl, hafter, hvalue⟩
    cases l with
    | openList other =>
      obtain rfl := Option.some.inj hl
      obtain rfl := Value.list.inj (Option.some.inj hvalue)
      exact ⟨before, after, hblock, hafter, rfl⟩
    | scalar => cases hvalue
    | _ => exact absurd hl (Option.some_ne_none key ∘ Eq.symm)
  · rintro ⟨before, after, hblock, hafter, rfl⟩
    exact ⟨before, _, after, hblock, rfl, hafter, rfl⟩

end Value

/-! ### Items that do not matter -/

/-- The items up to the next list are the same without an item that comes after that list. -/
private theorem itemsUpToList_append_item {middle : List Line}
    (h : ¬ ∀ l ∈ middle, l.opensList = false) (value : String) (after : List Line) :
    itemsUpToList (middle ++ .item value :: after) = itemsUpToList (middle ++ after) := by
  induction middle with
  | nil => exact absurd (fun l hl => absurd hl List.not_mem_nil) h
  | cons l middle ih =>
    rw [List.cons_append, List.cons_append]
    cases hl : l.opensList with
    | true => simp [itemsUpToList, hl]
    | false =>
      have h' : ¬ ∀ l ∈ middle, l.opensList = false := fun hm =>
        h (List.forall_mem_cons.mpr ⟨hl, hm⟩)
      rw [itemsUpToList_cons hl, itemsUpToList_cons hl, ih h']

/-- An item that is not gathered leaves the metadata as it is without it. -/
private theorem Reading.foldl_item_of_not_gathered {before after : List Line}
    (h : ¬ Gathered before after) (value : String) :
    ((before ++ .item value :: after).foldl Reading.step {}).metadata =
      ((before ++ after).foldl Reading.step {}).metadata := by
  refine Metadata.ext_of_get? (Reading.nodup_keys_foldl _) ?_ fun key => ?_
  · rw [Reading.keys_foldl, Reading.keys_foldl, List.filterMap_append, List.filterMap_append,
      List.filterMap_cons]
    rfl
  by_cases hafter : NoKeyLine key after
  · by_cases hbefore : NoKeyLine key before
    · -- the key is in neither
      rw [Reading.get?_foldl_of_noKeyLine, Reading.get?_foldl_of_noKeyLine]
      · exact List.forall_mem_append.mpr ⟨hbefore, hafter⟩
      · exact List.forall_mem_append.mpr
          ⟨hbefore, List.forall_mem_cons.mpr ⟨Option.some_ne_none key ∘ Eq.symm, hafter⟩⟩
    · -- its last key line is ahead of the item
      obtain ⟨start, l, middle, rfl, hl, hmiddle⟩ := exists_last_keyLine hbefore
      rw [List.append_assoc, List.append_assoc, List.cons_append, List.cons_append,
        Reading.get?_foldl_of_last hl, Reading.get?_foldl_of_last hl]
      · cases l with
        | openList other =>
          obtain rfl : other = key := Option.some.inj hl
          have hopens : ¬ ∀ l ∈ middle, l.opensList = false := fun hm =>
            h ⟨start, other, middle, rfl, hm, List.forall_mem_append.mpr ⟨hmiddle, hafter⟩⟩
          exact congrArg (some ∘ Value.list) (itemsUpToList_append_item hopens value after)
        | _ => rfl
      · exact List.forall_mem_append.mpr ⟨hmiddle, hafter⟩
      · exact List.forall_mem_append.mpr
          ⟨hmiddle, List.forall_mem_cons.mpr ⟨Option.some_ne_none key ∘ Eq.symm, hafter⟩⟩
  · -- its last key line is behind the item
    obtain ⟨middle, l, rest, rfl, hl, hrest⟩ := exists_last_keyLine hafter
    rw [← List.cons_append, ← List.append_assoc, ← List.append_assoc,
      Reading.get?_foldl_of_last hl hrest, Reading.get?_foldl_of_last hl hrest]

/-! ### Blocks -/

/-- **What a block says, by its key lines.** The keys of the metadata are those of the key lines,
in the order of first mention. A key whose last key line carries a value has that value. A key
whose last key line opens a list has the items from there up to the next line that opens a list,
in order. An item that is not gathered does not matter: a block that has a line without content in
its place has the same metadata. -/
theorem Metadata.parse_by_key_lines (block : String) :
    (Metadata.parse block).keys = ((linesOf block).filterMap Line.key?).eraseDups ∧
      (∀ before key value after, linesOf block = before ++ .scalar key value :: after →
        NoKeyLine key after → (Metadata.parse block).get? key = some (.text value)) ∧
      (∀ before key after, linesOf block = before ++ .openList key :: after →
        NoKeyLine key after →
          (Metadata.parse block).get? key = some (.list (itemsUpToList after))) ∧
      ∀ before value after, linesOf block = before ++ .item value :: after →
        ¬ Gathered before after → ∀ other, linesOf other = before ++ .ignored :: after →
          Metadata.parse other = Metadata.parse block := by
  refine ⟨Reading.keys_foldl _, ?_, ?_, ?_⟩
  · intro before key value after hb h
    rw [Metadata.parse, hb]
    exact Reading.get?_foldl_of_last (l := .scalar key value) rfl h
  · intro before key after hb h
    rw [Metadata.parse, hb]
    exact Reading.get?_foldl_of_last (l := .openList key) rfl h
  · intro before value after hb h other ho
    have hignored : (before ++ .ignored :: after).foldl Reading.step {} =
        (before ++ after).foldl Reading.step {} := by
      rw [List.foldl_append, List.foldl_append]
      rfl
    rw [Metadata.parse, Metadata.parse, hb, ho, hignored]
    exact (Reading.foldl_item_of_not_gathered h value).symm

/-- A list stays open across values of other keys and lines that say nothing. -/
example : (Metadata.parse "paths:\n- a\nname: x\n\n?\n- b").get? "paths" =
    some (.list [.text "a", .text "b"]) := by rfl

end Rulebook.Frontmatter
