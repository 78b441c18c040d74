/-!
# Blank characters

The characters that may stand around a value without belonging to it, and the
removal of them from both ends of a text.
-/

namespace PreAggregation
namespace Text

/-- Closed ranges of code points. -/
abbrev CodePoints := List (Nat × Nat)

/-- A character belongs to a set of ranges when one of them holds its code point. -/
def CodePoints.has (ranges : CodePoints) (c : Char) : Bool :=
  ranges.any fun (first, last) => first ≤ c.toNat && c.toNat ≤ last

/-- The code points with the White_Space property. -/
def blanks : CodePoints :=
  [(0x09, 0x0D), (0x20, 0x20), (0x85, 0x85), (0xA0, 0xA0), (0x1680, 0x1680),
    (0x2000, 0x200A), (0x2028, 0x2029), (0x202F, 0x202F), (0x205F, 0x205F),
    (0x3000, 0x3000)]

/-- A blank character may surround a value. -/
def isBlank (c : Char) : Bool :=
  blanks.has c

/-- The text without the blanks at its two ends. -/
def trim (text : List Char) : List Char :=
  ((text.dropWhile isBlank).reverse.dropWhile isBlank).reverse

/-- The parts of a text between blanks. -/
def words (text : String) : List String :=
  ((text.toList.splitOnP isBlank).filter fun word => !word.isEmpty).map String.ofList

end Text
end PreAggregation
