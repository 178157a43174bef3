/-!
# Similar texts

How much two texts have in common is measured by `matched`: take the longest run of characters that
stands in both, and go on to the left and to the right of it. Of several longest runs it is the one
that starts first in the first text, and of those the one that starts first in the second.

Two texts are close if the matched characters, counted in both, make up at least three fifths of
all their characters. `closest` lists the few candidates that are close, the closest first.
-/

namespace Rulebook.Text

/-- The length of the longest common start of two texts. -/
def commonStart : List Char → List Char → Nat
  | a :: s, b :: t => if a = b then commonStart s t + 1 else 0
  | _, _ => 0

/-- A run of characters that stands in two texts: where it starts in each, and its length. -/
structure SharedRun where
  first : Nat
  second : Nat
  length : Nat
  deriving DecidableEq, Repr, Inhabited

/-- For each pair of positions, the longest run that starts there in both texts. -/
def sharedRuns (s t : List Char) : List SharedRun :=
  (List.range s.length).flatMap fun i =>
    (List.range t.length).map fun j => ⟨i, j, commonStart (s.drop i) (t.drop j)⟩

/-- The first of the longest runs that stand in both texts. -/
def longestRun (s t : List Char) : SharedRun :=
  (sharedRuns s t).foldl (fun best run => if best.length < run.length then run else best) ⟨0, 0, 0⟩

/-- The number of characters that are matched in two texts. -/
def matched (s t : List Char) : Nat :=
  match longestRun s t with
  | ⟨i, j, n⟩ =>
    if _h : 0 < n ∧ i < s.length then
      matched (s.take i) (t.take j) + n + matched (s.drop (i + n)) (t.drop (j + n))
    else 0
termination_by s.length
decreasing_by
  · simp only [List.length_take]; omega
  · simp only [List.length_drop]; omega

/-- Whether at least three fifths of the characters of two texts are matched. -/
def isClose (s t : List Char) : Bool :=
  3 * (s.length + t.length) ≤ 10 * matched s t

/-- Whether `s` comes before `t` in a list of texts that are close to `word`: the share of matched
characters is greater, or it is the same and `s` is the greater text. -/
def closerThan (word s t : String) : Bool :=
  let share (x : String) := matched x.toList word.toList
  let total (x : String) := x.length + word.length
  let left := share s * total t
  let right := share t * total s
  left > right || (left = right && t ≤ s)

/-- At most three of the candidates that are close to a word, the closest first. -/
def closest (candidates : List String) (word : String) : List String :=
  ((candidates.filter fun x => isClose x.toList word.toList).mergeSort (closerThan word)).take 3

end Rulebook.Text
