import Rulebook.Frontmatter.Line
import Rulebook.Text.Lines

/-!
# The metadata of a rule file

`Metadata` is an ordered list of entries with distinct keys, and `Value` what an entry may hold.
`Metadata.parse` reads a frontmatter block line by line with one cursor, the key of the list that
is open: a key line binds its key anew and keeps the key's first position, an item goes to the
open list, and every other line is passed over.

An item is **misplaced** if there is no list for it. `Metadata.parse?` refuses such an item, where
`Metadata.parse` passes over it; a block has none, so the two come to the same.

**Main fact.** `parse_isPlain`: parsing yields only texts and lists of texts.

This is the restricted parser of `rulelint`, all of it.
-/

namespace Rulebook.Frontmatter

/-- A value of metadata. A frontmatter block holds only texts and lists of texts; metadata that
comes from elsewhere may hold the other kinds. -/
inductive Value where
  | null
  | flag (value : Bool)
  | number (value : Int)
  | text (value : String)
  | list (items : List Value)
  deriving Repr, Inhabited

/-- Metadata: values by key, in the order in which the keys first appeared. -/
structure Metadata where
  /-- The entries, with distinct keys. -/
  entries : List (String × Value) := []
  deriving Repr, Inhabited

namespace Metadata

/-- The value of a key. -/
def get? (m : Metadata) (key : String) : Option Value :=
  m.entries.lookup key

/-- The keys, in order. -/
def keys (m : Metadata) : List String :=
  m.entries.map Prod.fst

/-- Whether a key has a value. -/
def contains (m : Metadata) (key : String) : Bool :=
  (m.get? key).isSome

/-- Binds a key in a list of entries, at its position if it has one and at the end otherwise. -/
def bind (key : String) (value : Value) : List (String × Value) → List (String × Value)
  | [] => [(key, value)]
  | (k, v) :: rest => if k = key then (key, value) :: rest else (k, v) :: bind key value rest

/-- Binds a key: a new key goes to the end, a known one keeps its position. -/
def set (m : Metadata) (key : String) (value : Value) : Metadata :=
  ⟨bind key value m.entries⟩

end Metadata

/-- An item is **misplaced** when the key that it is for has no value, or a value that is no
list. -/
structure Misplaced where
  key : String
  found : Option Value

namespace Metadata

/-- Adds an item to the list that a key holds, and refuses to where there is none. -/
def append? (m : Metadata) (key : String) (item : Value) : Except Misplaced Metadata :=
  match m.get? key with
  | some (.list items) => .ok (m.set key (.list (items ++ [item])))
  | found => .error ⟨key, found⟩

/-- Adds an item to the list that a key holds. One that is misplaced is passed over. -/
def append (m : Metadata) (key : String) (item : Value) : Metadata :=
  match m.append? key item with
  | .ok appended => appended
  | .error _ => m

theorem append_eq (m : Metadata) (key : String) (item : Value) :
    m.append key item =
      match m.get? key with
      | some (.list items) => m.set key (.list (items ++ [item]))
      | _ => m := by
  rw [append, append?]
  cases m.get? key with
  | none => rfl
  | some value => cases value <;> rfl

end Metadata

/-! ### Reading a block -/

/-- What has been read of a block, and the key whose list the next item goes to. -/
structure Reading where
  metadata : Metadata := {}
  openKey : Option String := none
  deriving Repr, Inhabited

/-- Reads one more line. -/
def Reading.step (r : Reading) : Line → Reading
  | .ignored => r
  | .unrecognized => r
  | .scalar key value =>
    { metadata := r.metadata.set key (.text value)
      openKey := if r.openKey = some key then none else r.openKey }
  | .openList key => { metadata := r.metadata.set key (.list []), openKey := some key }
  | .item value =>
    match r.openKey with
    | some key => { r with metadata := r.metadata.append key (.text value) }
    | none => r

/-- Reads one more line, and refuses an item that is misplaced. -/
def Reading.step? (r : Reading) (l : Line) : Except Misplaced Reading :=
  match l with
  | .item value =>
    match r.openKey with
    | some key => (r.metadata.append? key (.text value)).map fun metadata => { r with metadata }
    | none => .ok r
  | l => .ok (r.step l)

/-- The lines of a block, each classified. -/
def linesOf (block : String) : List Line :=
  (Text.lines block.toList).map Line.classify

/-- The metadata that a block states. -/
def Metadata.parse (block : String) : Metadata :=
  ((linesOf block).foldl Reading.step {}).metadata

/-- The metadata that a block states, unless an item in it is misplaced. -/
def Metadata.parse? (block : String) : Except Misplaced Metadata :=
  ((linesOf block).foldlM Reading.step? {}).map Reading.metadata

/-! ### Plain metadata -/

/-- A value is **plain** when it is a text or a list of texts. -/
def Value.IsPlain : Value → Prop
  | .text _ => True
  | .list items => ∀ item ∈ items, ∃ s, item = .text s
  | _ => False

/-- Metadata is **plain** when each of its values is. -/
def Metadata.IsPlain (m : Metadata) : Prop :=
  ∀ entry ∈ m.entries, entry.2.IsPlain

theorem Metadata.mem_of_get? {m : Metadata} {key : String} {value : Value}
    (h : m.get? key = some value) : ∃ k, (k, value) ∈ m.entries := by
  obtain ⟨l₁, l₂, hl, -⟩ := List.lookup_eq_some_iff.mp h
  exact ⟨key, by simp [hl]⟩

theorem Metadata.IsPlain.set {m : Metadata} (h : m.IsPlain) (key : String) {value : Value}
    (hv : value.IsPlain) : (m.set key value).IsPlain := by
  have aux : ∀ es : List (String × Value), (∀ e ∈ es, e.2.IsPlain) →
      ∀ e ∈ Metadata.bind key value es, e.2.IsPlain := by
    intro es hes
    induction es with
    | nil => simpa [Metadata.bind] using hv
    | cons e es ih =>
      rw [Metadata.bind]
      split
      · intro x hx
        rcases List.mem_cons.mp hx with rfl | hx
        · exact hv
        · exact hes x (List.mem_cons_of_mem _ hx)
      · intro x hx
        rcases List.mem_cons.mp hx with rfl | hx
        · exact hes _ List.mem_cons_self
        · exact ih (fun y hy => hes y (List.mem_cons_of_mem _ hy)) x hx
  exact aux m.entries h

theorem Metadata.IsPlain.append {m : Metadata} (h : m.IsPlain) (key value : String) :
    (m.append key (.text value)).IsPlain := by
  rw [Metadata.append_eq]
  split
  · next items hg =>
    refine h.set key fun item hi => ?_
    obtain ⟨k, hk⟩ := Metadata.mem_of_get? hg
    rcases List.mem_append.mp hi with hi | hi
    · exact h _ hk item hi
    · exact ⟨value, List.mem_singleton.mp hi⟩
  · exact h

theorem Reading.step_isPlain {r : Reading} (h : r.metadata.IsPlain) (line : Line) :
    (r.step line).metadata.IsPlain := by
  cases line with
  | ignored => exact h
  | unrecognized => exact h
  | scalar key value => exact h.set key trivial
  | openList key => exact h.set key (by simp [Value.IsPlain])
  | item value =>
    rw [Reading.step]
    split
    · exact h.append _ value
    · exact h

/-- Parsing a block yields only texts and lists of texts. -/
theorem Metadata.parse_isPlain (block : String) : (Metadata.parse block).IsPlain := by
  have aux : ∀ (ls : List Line) (r : Reading), r.metadata.IsPlain →
      (ls.foldl Reading.step r).metadata.IsPlain := by
    intro ls
    induction ls with
    | nil => exact fun _ h => h
    | cons l ls ih => exact fun r h => ih _ (Reading.step_isPlain h l)
  exact aux _ _ (by simp [Metadata.IsPlain])

end Rulebook.Frontmatter
