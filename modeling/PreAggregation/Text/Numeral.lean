/-!
# Whole numbers in decimal

Reading a numeral of a bounded width: an optional sign and one or more ASCII
digits, with any number of leading zeros.
-/

namespace PreAggregation
namespace Text
namespace Numeral

/-- The value of a nonempty row of digits. -/
def digits? (text : List Char) : Option Nat :=
  if text.isEmpty || !text.all Char.isDigit then none
  else some (Nat.ofDigitChars 10 text 0)

/-- A numeral without a minus sign, below `2 ^ width`. -/
def unsigned? (width : Nat) (text : List Char) : Option Nat := do
  let value ← match text with
    | '+' :: digits => digits? digits
    | digits => digits? digits
  if value < Nat.pow 2 width then some value else none

/-- A numeral with an optional sign, at least `-2 ^ (width - 1)` and below
`2 ^ (width - 1)`. -/
def signed? (width : Nat) (text : List Char) : Option Int := do
  let value ← match text with
    | '+' :: digits => (digits? digits).map Int.ofNat
    | '-' :: digits => (digits? digits).map (- Int.ofNat ·)
    | digits => (digits? digits).map Int.ofNat
  let bound : Int := Nat.pow 2 (width - 1)
  if -bound ≤ value ∧ value < bound then some value else none

end Numeral
end Text
end PreAggregation
