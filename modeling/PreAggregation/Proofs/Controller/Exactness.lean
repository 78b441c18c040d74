import PreAggregation.Proofs.Controller.Cycle

/-!
# Exact thresholds

A controller raises its baseline by an adjustment that is not negative and lowers it by the
amount of one that is.  Either way it computes the exact sum, cut at the ends of the signed
range, for every adjustment but the least signed number.  The amount of that one is no
signed number, so the baseline is lowered by one less.
-/

namespace PreAggregation
namespace Threshold

/-- A number fits a signed 64-bit word. -/
def IsSigned (value : Int) : Prop :=
  floor ≤ value ∧ value ≤ greatest

instance (value : Int) : Decidable (IsSigned value) :=
  inferInstanceAs (Decidable (_ ∧ _))

/-- A positive number fits a signed 64-bit word. -/
def IsBaseline (start : Int) : Prop :=
  1 ≤ start ∧ start ≤ greatest

instance (start : Int) : Decidable (IsBaseline start) :=
  inferInstanceAs (Decidable (_ ∧ _))

/-- The amount of a negative number fits a signed word unless it is that of the least. -/
theorem saturate_neg
    {delta : Int}
    (signed : IsSigned delta)
    (notLeast : delta ≠ floor)
    (negative : delta < 0) :
    saturate (-delta) = -delta := by
  unfold IsSigned at signed
  simp only [saturate, floor, greatest] at signed notLeast ⊢
  omega

theorem saturate_neg_floor : saturate (-floor) = -floor - 1 := by
  decide

/-- Both ways to compute a threshold give the exact sum, cut at the ends. -/
theorem computed_eq_saturate
    (start : Int)
    {delta : Int}
    (signed : IsSigned delta)
    (notLeast : delta ≠ floor) :
    computed start delta = saturate (start + delta) := by
  unfold computed
  by_cases raises : 0 ≤ delta
  · rw [if_pos raises]
  · rw [if_neg raises, saturate_neg signed notLeast (Int.not_le.mp raises), Int.sub_neg]

/-- A baseline that is lowered by all it can be is one above the exact sum. -/
theorem computed_floor
    {start : Int}
    (isBaseline : IsBaseline start) :
    computed start floor = saturate (start + floor) + 1 := by
  have lowers : ¬(0 : Int) ≤ floor := by decide
  have inside : floor ≤ start + floor ∧ start + floor + 1 ≤ greatest := by
    unfold IsBaseline at isBaseline
    simp only [floor, greatest] at isBaseline ⊢
    omega
  rw [computed, if_neg lowers, saturate_neg_floor,
    saturate_of_mem inside.1 (by omega),
    saturate_of_mem (by omega) (by omega)]
  omega

end Threshold

/-- A threshold that is not positive is rejected. -/
theorem Trigger.Takes.eq_rejected
    {trigger changed : Trigger}
    {value : Int}
    {outcome : Outcome}
    (takes : trigger.Takes value changed outcome)
    (nonpositive : value ≤ 0) :
    (changed, outcome) = (trigger, .rejected value) := by
  cases takes with
  | rejected => rfl
  | unchanged positive => exact absurd positive (Int.not_lt.mpr nonpositive)
  | applied positive => exact absurd positive (Int.not_lt.mpr nonpositive)

namespace Controller

/-- An adjustment lets the trigger take the threshold that is computed. -/
theorem adjust_takes
    {controller : Controller}
    (idle : controller.tuning.pending = none)
    (trigger : Trigger)
    (delta : Int) :
    trigger.Takes (Threshold.computed (controller.startOf trigger.maxCount) delta)
      (controller.adjust trigger delta).2.1 (controller.adjust trigger delta).2.2 := by
  let value := Threshold.computed (controller.startOf trigger.maxCount) delta
  let proposed : Controller :=
    { controller with tuning :=
        { controller.tuning with
          baseline := some (controller.startOf trigger.maxCount)
          pending := some value } }
  have waits : proposed.tuning.pending = some value := rfl
  obtain ⟨changed, outcome, applied, takes⟩ := exists_applyPending_of_waiting waits trigger
  rw [adjust, propose_eq idle]
  dsimp only
  rw [applied]
  exact takes

/-- Without a threshold that waits, a controller computes the exact sum of its baseline and
an adjustment, cut at the ends of the signed range, and the trigger takes it if it is
positive.  For the least adjustment it is one more, which is rejected all the same. -/
theorem computes_exact_sum
    {controller : Controller}
    (idle : controller.tuning.pending = none)
    (trigger : Trigger)
    (isBaseline : Threshold.IsBaseline (controller.startOf trigger.maxCount))
    {delta : Int}
    (signed : Threshold.IsSigned delta) :
    let exact := Threshold.saturate (controller.startOf trigger.maxCount + delta)
    let adjusted := controller.adjust trigger delta
    (delta ≠ Threshold.floor →
      (controller.propose trigger.maxCount delta).2 = .pending exact ∧
        trigger.Takes exact adjusted.2.1 adjusted.2.2) ∧
    (delta = Threshold.floor →
      (controller.propose trigger.maxCount delta).2 = .pending (exact + 1) ∧
        adjusted.2 = (trigger, .rejected (exact + 1))) := by
  intro exact adjusted
  have takes := adjust_takes idle trigger delta
  rw [propose_eq idle]
  constructor
  · intro notLeast
    rw [Threshold.computed_eq_saturate _ signed notLeast] at takes ⊢
    exact ⟨rfl, takes⟩
  · rintro rfl
    rw [Threshold.computed_floor isBaseline] at takes ⊢
    have below : exact + 1 ≤ 0 := by
      obtain ⟨_, bounded⟩ := isBaseline
      simp only [exact, Threshold.saturate, Threshold.floor, Threshold.greatest] at bounded ⊢
      omega
    exact ⟨rfl, takes.eq_rejected below⟩

/-- A baseline of ten is raised to the greatest threshold, and lowered to one that is
rejected; by the least adjustment it is lowered to one more than the exact sum. -/
theorem computes_exact_sum_ten :
    let controller : Controller := .ofSubtask 0
    let trigger : Trigger := ⟨3, 10, none, .global⟩
    controller.tuning.pending = none ∧
      Threshold.IsBaseline (controller.startOf trigger.maxCount) ∧
      Threshold.IsSigned Threshold.greatest ∧ Threshold.IsSigned (-25) ∧
      Threshold.IsSigned Threshold.floor ∧
      (controller.propose 10 Threshold.greatest).2 = .pending 9223372036854775807 ∧
      (controller.adjust trigger (-25)).2 = (trigger, .rejected (-15)) ∧
      (controller.propose 10 Threshold.floor).2 = .pending (-9223372036854775797) := by
  intro controller trigger
  have idle : controller.tuning.pending = none := rfl
  have isBaseline : Threshold.IsBaseline (controller.startOf trigger.maxCount) := by decide
  have raised : Threshold.IsSigned Threshold.greatest := by decide
  have lowered : Threshold.IsSigned (-25) := by decide
  have least : Threshold.IsSigned Threshold.floor := by decide
  refine ⟨idle, isBaseline, raised, lowered, least, ?_, ?_, ?_⟩
  · have sum : Threshold.saturate (controller.startOf trigger.maxCount + Threshold.greatest) =
        9223372036854775807 := by decide
    have proposed := ((computes_exact_sum idle trigger isBaseline raised).1 (by decide)).1
    rw [sum] at proposed
    exact proposed
  · have sum : Threshold.saturate (controller.startOf trigger.maxCount + -25) = -15 := by decide
    have takes := ((computes_exact_sum idle trigger isBaseline lowered).1 (by decide)).2
    rw [sum] at takes
    exact takes.eq_rejected (by decide)
  · have sum : Threshold.saturate (controller.startOf trigger.maxCount + Threshold.floor) + 1 =
        -9223372036854775797 := by decide
    have proposed := ((computes_exact_sum idle trigger isBaseline least).2 rfl).1
    rw [sum] at proposed
    exact proposed

/-- From the greatest baseline the least adjustment leads to zero, where the exact sum is
one less. -/
theorem propose_floor_ne_saturate :
    let controller : Controller := .ofSubtask 0
    controller.tuning.pending = none ∧
      controller.startOf Threshold.greatest = Threshold.greatest ∧
      Threshold.IsBaseline Threshold.greatest ∧ Threshold.IsSigned Threshold.floor ∧
      (controller.propose Threshold.greatest Threshold.floor).2 = .pending 0 ∧
      Threshold.saturate (Threshold.greatest + Threshold.floor) = -1 := by
  decide

end Controller
end PreAggregation
