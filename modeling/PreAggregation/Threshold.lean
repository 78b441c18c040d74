/-!
# Thresholds

Count thresholds are positive and fit a signed 64-bit word, because they are changed
by signed adjustments.  Sums that leave the signed range stop at its ends.
-/

namespace PreAggregation
namespace Threshold

/-- The largest count threshold, which is also the largest signed 64-bit number. -/
def greatest : Nat :=
  0x7fffffffffffffff

/-- The least signed 64-bit number. -/
def floor : Int :=
  -0x8000000000000000

/-- The signed 64-bit number nearest to an integer. -/
def saturate (value : Int) : Int :=
  max floor (min value greatest)

theorem saturate_of_mem {value : Int} (low : floor ≤ value) (high : value ≤ greatest) :
    saturate value = value := by
  simp only [saturate]
  omega

end Threshold
end PreAggregation
