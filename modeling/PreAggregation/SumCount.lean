import PreAggregation.Aggregation

/-!
# Partial averages

A sum with the number of samples in it.  Two partial averages are merged by adding
both, so an average can be combined in any number of steps.
-/

namespace PreAggregation

/-- A sum and the number of samples in it. -/
structure SumCount where
  /-- The sum of the samples. -/
  sum : Float
  /-- The number of samples. -/
  count : Nat
  deriving Repr

namespace SumCount

/-- The partial average of no samples. -/
def zero : SumCount :=
  ⟨0.0, 0⟩

/-- The partial average of one sample. -/
def ofSample (sample : Float) : SumCount :=
  ⟨sample, 1⟩

/-- The partial average of the samples of both. -/
def merge (first second : SumCount) : SumCount :=
  ⟨first.sum + second.sum, first.count + second.count⟩

/-- The partial average with one more sample. -/
def add (current : Option SumCount) (sample : Float) : SumCount :=
  match current with
  | some current => current.merge (ofSample sample)
  | none => ofSample sample

/-- The average of the samples, if there are any. -/
def average? (partialAverage : SumCount) : Option Float :=
  if partialAverage.count = 0 then none
  else some (partialAverage.sum / Float.ofNat partialAverage.count)

@[simp] theorem count_merge (first second : SumCount) :
    (first.merge second).count = first.count + second.count := rfl

end SumCount

namespace Aggregation

/-- Sums and counts the values of each key. -/
def sumCount (κ : Type) : Aggregation κ SumCount (κ × Float) (κ × SumCount) :=
  ofFold Prod.fst fun current record => SumCount.add current record.2

end Aggregation
end PreAggregation
