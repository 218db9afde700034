/-!
# Sets of code points

A set of code points is a list of disjoint ranges in increasing order, both ends included.
Membership stops at the first range that begins past the code point.
-/

namespace MarkTree.Text

/-- A set of code points, as ranges in increasing order. -/
structure CodePoints where
  ranges : List (Nat × Nat)

namespace CodePoints

/-- Whether one of the ranges holds `n`. -/
def inRanges (n : Nat) : List (Nat × Nat) → Bool
  | [] => false
  | (first, last) :: rest => if n < first then false else n ≤ last || inRanges n rest

/-- Whether the set holds a character. -/
def contains (s : CodePoints) (c : Char) : Bool := inRanges c.toNat s.ranges

end CodePoints

end MarkTree.Text
