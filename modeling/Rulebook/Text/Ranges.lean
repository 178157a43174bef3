/-!
# Sets of characters as ranges

A character set is a sorted list of ranges of code points, each with its first and its last
member.
-/

namespace Rulebook.Text

/-- Whether a code point lies in one of the ranges, which are sorted and disjoint. -/
def inRanges (n : Nat) : List (Nat × Nat) → Bool
  | [] => false
  | (first, last) :: rest => first ≤ n && (n ≤ last || inRanges n rest)

end Rulebook.Text
