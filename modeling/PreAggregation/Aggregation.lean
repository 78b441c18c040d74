import PreAggregation.Bundle
import PreAggregation.Error

/-!
# Aggregations

How records are keyed, folded into partials, and turned into outputs at a flush.  An
aggregation keeps no state of its own: all of it is in the bundle.
-/

namespace PreAggregation

/-- What a bundle is turned into. -/
structure Collected (ο : Type) where
  /-- The outputs, including those that stand before a failure. -/
  outputs : List ο
  /-- Whether all of the bundle was turned into outputs. -/
  result : Except Error Unit := .ok ()

/-- A way to combine records of type `ι` by keys `κ` into partials `ν`, from which come
outputs `ο`. -/
structure Aggregation (κ ν ι ο : Type) where
  /-- The key of a record. -/
  key : ι → κ
  /-- Folds a record into the partial of its key, if there is one since the last flush. -/
  addInput : Option ν → ι → Except Error ν
  /-- Turns the bundle into outputs. -/
  collect : Bundle κ ν → Collected ο

namespace Aggregation

variable {κ ν ι ο : Type}

/-- The aggregation of a fold that cannot fail, with each key and its partial as one
output. -/
def ofFold (key : ι → κ) (fold : Option ν → ι → ν) : Aggregation κ ν ι (κ × ν) where
  key := key
  addInput current record := .ok (fold current record)
  collect bundle := { outputs := bundle.entries }

/-- Counts the records of each key. -/
def count (key : ι → κ) : Aggregation κ Nat ι (κ × Nat) :=
  ofFold key fun current _ => current.getD 0 + 1

end Aggregation
end PreAggregation
