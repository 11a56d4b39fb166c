/-!
# Ranges of code points

Classes of characters that a standard lists are tables of ranges, in increasing order.
-/

namespace TypeShape

/-- A range of code points, with both ends included. -/
structure CodeRange where
  /-- The least code point of the range. -/
  first : Nat
  /-- The greatest code point of the range. -/
  last : Nat

namespace CodeRange

/-- Whether the character is in the range. -/
def contains (range : CodeRange) (c : Char) : Bool :=
  range.first ≤ c.toNat && c.toNat ≤ range.last

/-- Whether a range of the table holds the character. The table is in increasing order, so the
search ends at the first range that begins past the character. -/
def holds (c : Char) : List CodeRange → Bool
  | [] => false
  | range :: ranges =>
    if c.toNat < range.first then false
    else c.toNat ≤ range.last || holds c ranges

end CodeRange
end TypeShape
