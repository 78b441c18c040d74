import PreAggregation.Threshold

/-!
# Tuning

A tuning keeps the threshold that adjustments start from, which is set once, apart
from a threshold that is computed and waits to be applied.  While one waits no other
is computed.
-/

namespace PreAggregation

/-- Where an instance is in the course of its adjustments. -/
structure Tuning where
  /-- The threshold that adjustments start from. -/
  baseline : Option Int
  /-- The threshold that waits to be applied. -/
  pending : Option Int
  /-- Whether the threshold is known to be good. -/
  validated : Bool
  /-- Whether the instance has more to do than it can. -/
  overloaded : Bool
  deriving DecidableEq, Repr

namespace Tuning

/-- A tuning before the first adjustment. -/
def initial : Tuning :=
  ⟨none, none, true, false⟩

/-- Sets the baseline if there is none, and tells whether it did. -/
def setBaseline (tuning : Tuning) (baseline : Int) : Tuning × Bool :=
  match tuning.baseline with
  | some _ => (tuning, false)
  | none => ({ tuning with baseline := some baseline }, true)

/-- Computes a threshold from the baseline if none waits, and gives the one that waits
then. -/
def propose (tuning : Tuning) (compute : Int → Int) : Tuning × Option Int :=
  match tuning.pending, tuning.baseline with
  | some pending, _ => (tuning, some pending)
  | none, some baseline =>
      ({ tuning with pending := some (compute baseline) }, some (compute baseline))
  | none, none => (tuning, none)

/-- Proposes the baseline raised by an amount. -/
def increase (tuning : Tuning) (amount : Int) : Tuning × Option Int :=
  tuning.propose fun baseline => Threshold.saturate (baseline + amount)

/-- Proposes the baseline lowered by an amount. -/
def decrease (tuning : Tuning) (amount : Int) : Tuning × Option Int :=
  tuning.propose fun baseline => Threshold.saturate (baseline - amount)

/-- Takes the threshold that waits. -/
def consume (tuning : Tuning) : Tuning × Option Int :=
  ({ tuning with pending := none }, tuning.pending)

/-- An optional number in words. -/
def describeNumber : Option Int → String
  | none => "None"
  | some value => s!"Some({value})"

/-- All fields in one line. -/
def describe (tuning : Tuning) : String :=
  "GlobalState \x7b interval_current: " ++ describeNumber tuning.baseline ++
    ", interval_new: " ++ describeNumber tuning.pending ++
    s!", validated: {tuning.validated}, overloaded: {tuning.overloaded} \x7d"

end Tuning
end PreAggregation
