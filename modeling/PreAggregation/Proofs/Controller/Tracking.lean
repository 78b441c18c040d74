import PreAggregation.Controller.Basic
import PreAggregation.Proofs.Histories

/-!
# Where adjustments lead

Adjustments of a threshold replace one another: what counts is the last one that leaves
the threshold positive.  A controller without a threshold that waits tracks the
adjustments it was given, because it starts each time from the threshold that it found
first.
-/

namespace PreAggregation
namespace Threshold

/-! ## Sums that are thresholds -/

/-- What adjustments of a threshold start from. -/
def baseline (threshold : Nat) : Nat :=
  min threshold greatest

/-- The last adjustment that leaves a threshold positive. -/
def lastAccepted?
    (threshold : Nat)
    (deltas : List Int) : Option Int :=
  (deltas.filter fun delta : Int => 0 < baseline threshold + delta).getLast?

/-- The threshold that comes of another one by an adjustment that leaves it positive. -/
def raised
    (threshold : Nat)
    (delta : Int) : Nat :=
  (min (baseline threshold + delta) greatest).toNat

/-- The threshold that comes of another one by some adjustments. -/
def tuned
    (threshold : Nat)
    (deltas : List Int) : Nat :=
  (lastAccepted? threshold deltas).elim threshold (raised threshold)

@[simp] theorem tuned_nil (threshold : Nat) : tuned threshold [] = threshold := rfl

theorem lastAccepted?_concat
    (threshold : Nat)
    (deltas : List Int)
    (delta : Int) :
    lastAccepted? threshold (deltas ++ [delta]) =
      if 0 < baseline threshold + delta then some delta else lastAccepted? threshold deltas := by
  unfold lastAccepted?
  rw [List.filter_append]
  by_cases accepted : 0 < (baseline threshold : Int) + delta
  · rw [if_pos accepted, List.filter_cons_of_pos (by simpa using accepted), List.filter_nil,
      List.getLast?_concat]
  · rw [if_neg accepted, List.filter_cons_of_neg (by simpa using accepted), List.filter_nil,
      List.append_nil]

theorem tuned_concat
    (threshold : Nat)
    (deltas : List Int)
    (delta : Int) :
    tuned threshold (deltas ++ [delta]) =
      if 0 < baseline threshold + delta then raised threshold delta
      else tuned threshold deltas := by
  unfold tuned
  rw [lastAccepted?_concat]
  split <;> rfl

theorem pos_of_lastAccepted?_eq_some
    {threshold : Nat}
    {deltas : List Int}
    {delta : Int}
    (last : lastAccepted? threshold deltas = some delta) :
    0 < baseline threshold + delta := by
  have accepted := List.mem_of_getLast? last
  rw [List.mem_filter] at accepted
  exact of_decide_eq_true accepted.2

theorem raised_mem
    {threshold : Nat}
    {delta : Int}
    (accepted : 0 < baseline threshold + delta) :
    1 ≤ raised threshold delta ∧ raised threshold delta ≤ greatest := by
  unfold raised
  have room : (1 : Int) ≤ greatest := by decide
  omega

theorem tuned_mem
    {threshold : Nat}
    (positive : 1 ≤ threshold)
    (bounded : threshold ≤ greatest)
    (deltas : List Int) :
    1 ≤ tuned threshold deltas ∧ tuned threshold deltas ≤ greatest := by
  unfold tuned
  cases last : lastAccepted? threshold deltas with
  | none => exact ⟨positive, bounded⟩
  | some delta => exact raised_mem (pos_of_lastAccepted?_eq_some last)

/-- For a threshold that fits the signed range the threshold behind some adjustments
is, in exact integers, the sum with the last one that counts, cut at the greatest. -/
theorem cast_tuned
    {threshold : Nat}
    (bounded : threshold ≤ greatest)
    (deltas : List Int) :
    (tuned threshold deltas : Int) =
      ((deltas.filter fun delta : Int => 0 < threshold + delta).getLast?).elim (threshold : Int)
        fun delta => min (threshold + delta) greatest := by
  have same : baseline threshold = threshold := Nat.min_eq_left bounded
  unfold tuned
  cases last : lastAccepted? threshold deltas with
  | none =>
      rw [lastAccepted?, same] at last
      rw [last]
      rfl
  | some delta =>
      have accepted := pos_of_lastAccepted?_eq_some last
      rw [lastAccepted?, same] at last
      rw [same] at accepted
      rw [last, Option.elim_some, Option.elim_some, raised, same]
      have room : (1 : Int) ≤ greatest := by decide
      omega

/-! ## Sums in the signed range -/

/-- What a controller computes from a baseline. -/
def computed
    (start delta : Int) : Int :=
  if 0 ≤ delta then saturate (start + delta) else saturate (start - saturate (-delta))

/-- A sum is positive in the signed range just if it is in the integers. -/
theorem computed_pos_iff
    (threshold : Nat)
    (delta : Int) :
    0 < computed (baseline threshold) delta ↔ 0 < baseline threshold + delta := by
  have bounded : baseline threshold ≤ greatest := Nat.min_le_right _ _
  simp only [computed, saturate, floor, greatest] at bounded ⊢
  split <;> omega

theorem toNat_computed
    {threshold : Nat}
    {delta : Int}
    (accepted : 0 < baseline threshold + delta) :
    (computed (baseline threshold) delta).toNat = raised threshold delta := by
  have bounded : baseline threshold ≤ greatest := Nat.min_le_right _ _
  simp only [computed, raised, saturate, floor, greatest] at bounded ⊢
  split <;> omega

end Threshold

namespace Controller

/-! ## One adjustment -/

/-- A controller with another baseline and nothing that waits. -/
def settled
    (controller : Controller)
    (start : Int) : Controller :=
  { controller with tuning := { controller.tuning with baseline := some start, pending := none } }

/-- What a controller starts from, given the threshold in force. -/
def startOf
    (controller : Controller)
    (maxCount : Nat) : Int :=
  controller.tuning.baseline.getD (min (maxCount : Int) Threshold.greatest)

/-- Without a threshold that waits one is computed, and then it waits. -/
theorem propose_eq
    {controller : Controller}
    (idle : controller.tuning.pending = none)
    (maxCount : Nat)
    (delta : Int) :
    let value := Threshold.computed (controller.startOf maxCount) delta
    controller.propose maxCount delta =
      ({ controller with tuning :=
          { controller.tuning with
            baseline := some (controller.startOf maxCount)
            pending := some value } },
        .pending value) := by
  obtain ⟨⟨start, pending, validated, overloaded⟩, subtask⟩ := controller
  obtain rfl : pending = none := idle
  cases start with
  | none =>
      unfold propose Threshold.computed
      split <;> rfl
  | some start =>
      unfold propose Threshold.computed
      split <;> rfl

/-- An adjustment leaves nothing waiting.  The threshold changes if a positive one is
computed. -/
theorem adjust_eq
    {controller : Controller}
    (idle : controller.tuning.pending = none)
    (trigger : Trigger)
    (delta : Int) :
    let value := Threshold.computed (controller.startOf trigger.maxCount) delta
    (controller.adjust trigger delta).1 =
        controller.settled (controller.startOf trigger.maxCount) ∧
      (controller.adjust trigger delta).2.1.maxCount =
        if 0 < value then value.toNat else trigger.maxCount := by
  intro value
  rw [adjust, propose_eq idle]
  by_cases positive : 0 < value
  · have present : value.toNat ≠ 0 := by omega
    have applied : ¬value ≤ 0 := Int.not_le.mpr positive
    simp only [applyPending, Trigger.setMaxCount]
    rw [if_neg applied, if_neg present, if_pos positive]
    cases decide (value.toNat ≠ trigger.maxCount) with
    | true => exact ⟨rfl, rfl⟩
    | false => exact ⟨rfl, rfl⟩
  · have rejected : value ≤ 0 := Int.not_lt.mp positive
    simp only [applyPending]
    rw [if_pos rejected, if_neg positive]
    exact ⟨rfl, rfl⟩

/-! ## Many adjustments -/

/-- A controller has made some adjustments of a threshold, and nobody else has changed
it. -/
structure Tracks
    (controller : Controller)
    (threshold : Nat)
    (deltas : List Int)
    (maxCount : Nat) : Prop where
  /-- Nothing waits. -/
  pending_eq : controller.tuning.pending = none
  /-- The baseline is the threshold before the first adjustment. -/
  baseline_eq : controller.tuning.baseline =
    if deltas = [] then none else some (Threshold.baseline threshold : Int)
  /-- The threshold in force. -/
  maxCount_eq : maxCount = Threshold.tuned threshold deltas

theorem tracks_ofSubtask
    (subtask threshold : Nat) :
    (ofSubtask subtask).Tracks threshold [] threshold where
  pending_eq := rfl
  baseline_eq := rfl
  maxCount_eq := rfl

section Steps

variable {controller : Controller} {threshold : Nat} {deltas : List Int} {trigger : Trigger}

theorem Tracks.startOf_eq
    (tracks : controller.Tracks threshold deltas trigger.maxCount) :
    controller.startOf trigger.maxCount = Threshold.baseline threshold := by
  rw [startOf, tracks.baseline_eq]
  by_cases none : deltas = []
  · rw [if_pos none, tracks.maxCount_eq, none, Threshold.tuned_nil, Option.getD_none]
    simp only [Threshold.baseline]
    omega
  · rw [if_neg none, Option.getD_some]

theorem Tracks.adjust
    (tracks : controller.Tracks threshold deltas trigger.maxCount)
    (delta : Int) :
    (controller.adjust trigger delta).1.Tracks threshold (deltas ++ [delta])
      (controller.adjust trigger delta).2.1.maxCount := by
  obtain ⟨next, maxCount⟩ := adjust_eq tracks.pending_eq trigger delta
  rw [tracks.startOf_eq] at next maxCount
  refine ⟨?_, ?_, ?_⟩
  · rw [next]
    rfl
  · rw [next, if_neg (by simp)]
    rfl
  · rw [maxCount, Threshold.tuned_concat]
    by_cases accepted : 0 < (Threshold.baseline threshold : Int) + delta
    · rw [if_pos accepted, if_pos ((Threshold.computed_pos_iff threshold delta).mpr accepted),
        Threshold.toNat_computed accepted]
    · rw [if_neg accepted, if_neg (mt (Threshold.computed_pos_iff threshold delta).mp accepted),
        tracks.maxCount_eq]

end Steps
end Controller

/-- The adjustments that some payloads spell. -/
def Adjustment.deltas (payloads : List (List UInt8)) : List Int :=
  payloads.filterMap fun payload => (parse payload).toOption

theorem Adjustment.deltas_concat
    (payloads : List (List UInt8))
    (payload : List UInt8) :
    deltas (payloads ++ [payload]) = deltas payloads ++ (parse payload).toOption.toList :=
  filterMap_concat _ payloads payload

theorem Controller.Tracks.receive
    {controller : Controller}
    {threshold : Nat}
    {payloads : List (List UInt8)}
    {trigger : Trigger}
    (tracks : controller.Tracks threshold (Adjustment.deltas payloads) trigger.maxCount)
    (payload : List UInt8) :
    (controller.receive trigger payload).1.Tracks threshold
      (Adjustment.deltas (payloads ++ [payload]))
      (controller.receive trigger payload).2.1.maxCount := by
  rw [Adjustment.deltas_concat]
  cases spelled : Adjustment.parse payload with
  | error error =>
      simp only [Controller.receive, spelled, Except.toOption, Option.toList_none,
        List.append_nil]
      exact tracks
  | ok delta =>
      simp only [Controller.receive, spelled, Except.toOption, Option.toList_some]
      exact tracks.adjust delta

end PreAggregation
