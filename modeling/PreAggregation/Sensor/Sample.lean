import PreAggregation.Text.Blank
import PreAggregation.Text.Case
import PreAggregation.Text.Decimal
import PreAggregation.Text.Numeral

/-!
# Samples

A line of samples holds tokens with bars between them.  A token is the number of a
sensor and a value with a semicolon between them.  A token that is anything else is
passed over.
-/

namespace PreAggregation
namespace Sensor

/-- The number of a sensor. -/
abbrev Id := Nat

/-- A value of a sensor. -/
abbrev Sample := Id × Float

/-- The sample that a token in small letters spells. -/
def sample? (token : List Char) : Option Sample :=
  match token.splitOn ';' with
  | [id, value] => do
      let id ← Text.Numeral.unsigned? 32 (Text.trim id)
      let value ← Text.Decimal.read? (Text.trim value)
      return (id, value)
  | _ => none

/-- The samples of a line.  The line is put in small letters as a whole. -/
def tokenize (line : String) : List Sample :=
  ((Text.lower line.toList).splitOn '|').filterMap sample?

end Sensor
end PreAggregation
