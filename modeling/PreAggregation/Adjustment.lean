import PreAggregation.Error
import PreAggregation.Text.Blank
import PreAggregation.Text.Numeral

/-!
# Adjustments

An adjustment is a signed number by which a threshold is to change.  It travels as
text.
-/

namespace PreAggregation
namespace Adjustment

/-- The adjustment that a payload spells: a signed 64-bit number with blanks around it. -/
def parse (payload : List UInt8) : Except Error Int :=
  match Text.Utf8.decode? payload with
  | none => .error ⟨.stage (.invalidAdjustment (Text.Utf8.lossy payload)), []⟩
  | some text =>
      match Text.Numeral.signed? 64 (Text.trim text.toList) with
      | none => .error ⟨.stage (.invalidAdjustment text), []⟩
      | some delta => .ok delta

/-- The payload that spells an adjustment. -/
def payload (delta : Int) : List UInt8 :=
  Text.Utf8.encode (toString delta)

end Adjustment

/-- What came of an adjustment. -/
inductive Outcome
  /-- A new threshold is computed and not yet applied. -/
  | pending (value : Int)
  /-- The threshold changed. -/
  | applied (previous current : Nat)
  /-- The new threshold is the old one. -/
  | unchanged (value : Nat)
  /-- The new threshold is not positive. -/
  | rejected (value : Int)
  /-- Another adjustment waits to be applied. -/
  | duplicate (value : Int)
  /-- There is no threshold to start from. -/
  | noBaseline
  deriving DecidableEq, Repr

/-- The kinds of outcomes. -/
inductive OutcomeKind
  | pending
  | applied
  | unchanged
  | rejected
  | duplicate
  | noBaseline
  deriving DecidableEq, Repr

/-- The kind of an outcome. -/
def Outcome.kind : Outcome → OutcomeKind
  | .pending _ => .pending
  | .applied .. => .applied
  | .unchanged _ => .unchanged
  | .rejected _ => .rejected
  | .duplicate _ => .duplicate
  | .noBaseline => .noBaseline

namespace OutcomeKind

/-- The name of a kind in metrics. -/
def label : OutcomeKind → String
  | .pending => "pending"
  | .applied => "applied"
  | .unchanged => "unchanged"
  | .rejected => "rejected"
  | .duplicate => "duplicate"
  | .noBaseline => "no_baseline"

/-- All kinds. -/
def all : List OutcomeKind :=
  [.pending, .applied, .unchanged, .rejected, .duplicate, .noBaseline]

end OutcomeKind
end PreAggregation
