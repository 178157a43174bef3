/-!
# Paths

A path is an anchor and a list of segments. `Path.ofString` reads the written form, where empty
segments and the segment `.` say nothing and `..` is kept; `Path.toString` writes the shortest
form back.

**Main facts.** `relativeTo?_append`: a path below a root is relative to it by the segments
below; `relativeTo?_eq_some_iff` says that nothing else is.
-/

namespace Rulebook

/-- Where a path starts. -/
inductive Anchor where
  /-- At the current folder. -/
  | current
  /-- At the top of the file tree, written `/`. -/
  | top
  /-- At the top of the file tree, written `//`. -/
  | doubleTop
  deriving DecidableEq, Repr, Inhabited

/-- The written form of an anchor. -/
def Anchor.toString : Anchor → String
  | .current => ""
  | .top => "/"
  | .doubleTop => "//"

/-- A path: where it starts, and the names to follow from there. -/
structure Path where
  anchor : Anchor := .current
  segments : List String := []
  deriving DecidableEq, Repr, Inhabited

namespace Path

/-- Cuts a text at each slash. -/
def splitSlashes : List Char → List (List Char)
  | [] => [[]]
  | c :: s =>
    if c = '/' then [] :: splitSlashes s
    else
      match splitSlashes s with
      | [] => [[c]]
      | t :: ts => (c :: t) :: ts

/-- The anchor of a written path: exactly two slashes at the start differ from one, and three or
more do not. -/
def anchorOf : List Char → Anchor
  | '/' :: '/' :: '/' :: _ => .top
  | '/' :: '/' :: _ => .doubleTop
  | '/' :: _ => .top
  | _ => .current

/-- The segments of a written path. -/
def segmentsOf (s : List Char) : List String :=
  ((splitSlashes s).filter fun t => !(t == [] || t == ['.'])).map String.ofList

/-- Reads a written path. -/
def ofString (s : String) : Path :=
  ⟨anchorOf s.toList, segmentsOf s.toList⟩

/-- Writes a path. A path without anchor and segments is written `.`. -/
protected def toString (p : Path) : String :=
  match p.anchor, p.segments with
  | .current, [] => "."
  | anchor, segments => anchor.toString ++ "/".intercalate segments

instance : ToString Path := ⟨Path.toString⟩

/-- The last segment, or the empty text where there is none. -/
def name (p : Path) : String :=
  p.segments.getLastD ""

/-- All parts of a path: its anchor, where it has one, and its segments. -/
def parts (p : Path) : List String :=
  match p.anchor with
  | .current => p.segments
  | anchor => anchor.toString :: p.segments

/-- The path of an entry in the folder `p`. -/
def child (p : Path) (name : String) : Path :=
  { p with segments := p.segments ++ [name] }

/-- The path that `q` names below `p`. -/
def append (p : Path) (q : List String) : Path :=
  { p with segments := p.segments ++ q }

/-- What is left of a list after another one that it starts with. -/
def dropStart? : List String → List String → Option (List String)
  | [], xs => some xs
  | _ :: _, [] => none
  | s :: ss, x :: xs => if s = x then dropStart? ss xs else none

/-- The path relative to a root that it lies at or below. -/
def relativeTo? (p root : Path) : Option Path :=
  if p.anchor = root.anchor then
    (dropStart? root.segments p.segments).map fun rest => ⟨.current, rest⟩
  else none

/-- The path relative to a root, where there is a root and the path lies below it, and otherwise
the path itself. -/
def under (p : Path) (root : Option Path) : Path :=
  match root with
  | none => p
  | some r => (p.relativeTo? r).getD p

/-! ### Paths below a root -/

theorem append_nil (p : Path) : p.append [] = p := by
  rw [append, List.append_nil]

theorem append_cons (p : Path) (name : String) (names : List String) :
    p.append (name :: names) = (p.child name).append names := by
  rw [append, append, child, List.append_assoc, List.singleton_append]

theorem append_concat (p : Path) (names : List String) (name : String) :
    p.append (names ++ [name]) = (p.append names).child name := by
  rw [append, append, child, List.append_assoc]

theorem dropStart?_append (ss xs : List String) : dropStart? ss (ss ++ xs) = some xs := by
  induction ss with
  | nil => rfl
  | cons s ss ih => simp [dropStart?, ih]

theorem dropStart?_eq_some_iff {ss xs ys : List String} :
    dropStart? ss xs = some ys ↔ xs = ss ++ ys := by
  induction ss generalizing xs with
  | nil => simp [dropStart?]
  | cons s ss ih =>
    cases xs with
    | nil => simp [dropStart?]
    | cons x xs =>
      rw [dropStart?]
      split
      · next h => subst h; simp [ih]
      · next h => simp [Ne.symm h]

/-- A path below a root is relative to it by the segments below. -/
theorem relativeTo?_append (r : Path) (q : List String) :
    (r.append q).relativeTo? r = some ⟨.current, q⟩ := by
  simp [relativeTo?, append, dropStart?_append]

/-- A path is relative to a root just when it continues the root. -/
theorem relativeTo?_eq_some_iff {p r q : Path} :
    p.relativeTo? r = some q ↔ q.anchor = .current ∧ p = r.append q.segments := by
  obtain ⟨a, ss⟩ := p
  obtain ⟨b, rs⟩ := r
  obtain ⟨c, qs⟩ := q
  simp only [relativeTo?, append]
  split
  · next h =>
    subst h
    simp only [Option.map_eq_some_iff, dropStart?_eq_some_iff, mk.injEq]
    constructor
    · rintro ⟨xs, rfl, rfl, rfl⟩
      exact ⟨rfl, trivial, rfl⟩
    · rintro ⟨rfl, -, rfl⟩
      exact ⟨qs, rfl, rfl, rfl⟩
  · next h => simp [h]

end Path

end Rulebook
