import PreAggregation.Adjustment
import PreAggregation.Controller.Tuning
import PreAggregation.Trigger

/-!
# Controllers

A controller turns adjustments into thresholds of a trigger.  An adjustment is added
to the threshold that the trigger had when the controller first looked at it, so
adjustments replace one another and do not add up.
-/

namespace PreAggregation

/-- The control of one operator instance over its trigger. -/
structure Controller where
  /-- The course of the adjustments. -/
  tuning : Tuning
  /-- The index of the instance. -/
  subtask : Nat
  deriving DecidableEq, Repr

namespace Controller

/-- A controller before the first adjustment. -/
def ofSubtask (subtask : Nat) : Controller :=
  ⟨.initial, subtask⟩

/-- Computes a new threshold from the one in force, `threshold`, without applying it. -/
def propose (controller : Controller) (threshold : Nat) (delta : Int) : Controller × Outcome :=
  let baseline : Int := min threshold Threshold.greatest
  let tuning := (controller.tuning.setBaseline baseline).1
  match tuning.pending with
  | some pending => ({ controller with tuning }, .duplicate pending)
  | none =>
      let (tuning, pending) :=
        if 0 ≤ delta then tuning.increase delta
        else tuning.decrease (Threshold.saturate (-delta))
      ({ controller with tuning }, pending.elim .noBaseline .pending)

/-- Applies the threshold that waits, if there is one. -/
def applyPending (controller : Controller) (trigger : Trigger) :
    Controller × Trigger × Option Outcome :=
  match controller.tuning.pending with
  | none => (controller, trigger, none)
  | some pending =>
      let consumed := { controller with tuning := controller.tuning.consume.1 }
      if pending ≤ 0 then (consumed, trigger, some (.rejected pending))
      else
        match trigger.setMaxCount pending.toNat with
        | (changed, true) => (consumed, changed, some (.applied trigger.maxCount pending.toNat))
        | (same, false) => (consumed, same, some (.unchanged trigger.maxCount))

/-- Computes a new threshold and applies it. -/
def adjust (controller : Controller) (trigger : Trigger) (delta : Int) :
    Controller × Trigger × Outcome :=
  match controller.propose trigger.maxCount delta with
  | (controller, .pending _) =>
      let (controller, trigger, outcome) := controller.applyPending trigger
      (controller, trigger, outcome.getD .noBaseline)
  | (controller, outcome) => (controller, trigger, outcome)

/-- Reads a payload and makes the adjustment that it spells. -/
def receive (controller : Controller) (trigger : Trigger) (payload : List UInt8) :
    Controller × Trigger × Except Error Outcome :=
  match Adjustment.parse payload with
  | .error error => (controller, trigger, .error error)
  | .ok delta =>
      let (controller, trigger, outcome) := controller.adjust trigger delta
      (controller, trigger, .ok outcome)

/-- All fields in one line, with the threshold in force. -/
def describe (controller : Controller) (threshold : Nat) : String :=
  s!"AdaptiveController \x7b subtask_index: {controller.subtask}, state: " ++
    controller.tuning.describe ++ s!", max_count: {threshold} \x7d"

end Controller
end PreAggregation
