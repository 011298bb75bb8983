/-! Sets of characters, given as ranges of code points. -/

namespace Catalog.Text

/-- Ranges of code points, each from its first to its last, in ascending order. -/
abbrev Ranges := List (Nat × Nat)

/-- Whether a code point lies in one of the ranges; the search ends at the first range above. -/
def Ranges.holds (code : Nat) : Ranges → Bool
  | [] => false
  | (first, last) :: rest => first ≤ code && (code ≤ last || holds code rest)

/-- Whether a character belongs to the set. -/
def Ranges.contains (ranges : Ranges) (c : Char) : Bool :=
  ranges.holds c.toNat

end Catalog.Text
