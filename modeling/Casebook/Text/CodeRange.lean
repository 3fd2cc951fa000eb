/-!
# Ranges of characters

A property of characters is given by the ranges of code points that have it, in ascending order.

Main definitions:

- {lit}`Text.inRanges`: a character lies in one of some ranges.
-/

namespace Casebook
namespace Text

/-- The first and the last code point of a range. -/
abbrev CodeRange := Nat × Nat

/-- A character lies in one of the ranges. -/
def inRanges (ranges : List CodeRange) (c : Char) : Bool :=
  ranges.any fun range => Nat.ble range.1 c.toNat && Nat.ble c.toNat range.2

end Text
end Casebook
