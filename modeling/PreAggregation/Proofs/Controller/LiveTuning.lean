import Mathlib.Data.List.Induction
import PreAggregation.Controller.Panel
import PreAggregation.Proofs.Controller.Tracking

/-!
# Live tuning

A trigger counts records while one controller changes its threshold by payloads.  Behind
every history the threshold depends on the first one and on the last adjustment that
leaves it positive, and on nothing else that happened.
-/

namespace PreAggregation
namespace Trigger

/-- A trigger is new, with a threshold that was accepted. -/
inductive IsNew (threshold : Nat) : Trigger → Prop
  | counted {strategy : Strategy} {built : Trigger} (maxTime : Option Nat) :
      ofCount threshold strategy = .ok built → IsNew threshold { built with maxTime }
  | configured {config : Config} {built : Trigger} :
      ofConfig config = .ok built → config.maxCount.toNat = threshold → IsNew threshold built

theorem maxCount_of_ofCount
    {threshold : Nat}
    {strategy : Strategy}
    {built : Trigger}
    (accepted : ofCount threshold strategy = .ok built) :
    built.maxCount = threshold ∧ 1 ≤ threshold ∧ threshold ≤ Threshold.greatest := by
  unfold ofCount Config.countFault? at accepted
  by_cases zero : threshold = 0
  · rw [if_pos zero] at accepted
    exact absurd accepted (by simp)
  · by_cases large : Threshold.greatest < threshold
    · rw [if_neg zero, if_pos large] at accepted
      exact absurd accepted (by simp)
    · rw [if_neg zero, if_neg large] at accepted
      cases accepted
      exact ⟨rfl, by omega, by omega⟩

theorem IsNew.maxCount_eq
    {threshold : Nat}
    {trigger : Trigger}
    (isNew : trigger.IsNew threshold) :
    trigger.maxCount = threshold ∧ 1 ≤ threshold ∧ threshold ≤ Threshold.greatest := by
  cases isNew with
  | counted maxTime accepted =>
      have known := maxCount_of_ofCount accepted
      exact known
  | @configured config _ accepted same =>
      subst same
      unfold ofConfig at accepted
      cases valid : config.validate with
      | error error =>
          rw [valid] at accepted
          exact absurd accepted (by simp [bind, Except.bind])
      | ok value =>
          cases built : ofCount config.maxCount.toNat config.strategy with
          | error error =>
              rw [valid, built] at accepted
              exact absurd accepted (by simp [bind, Except.bind])
          | ok trigger =>
              rw [valid, built] at accepted
              cases accepted
              have known := maxCount_of_ofCount built
              cases config.maxTime with
              | none => exact known
              | some maxTime => exact known

end Trigger

namespace Panel

/-- What happens to a trigger with one controller: records pass, the trigger starts over or
fires because the time has come, or the controller receives a payload. -/
inductive Signal
  | element
  /-- The trigger starts over, as it does at every flush. -/
  | reset
  /-- The time has come, and the trigger fires. -/
  | timeTrigger
  | payload (bytes : List UInt8)

/-- A signal as a call on the panel. -/
def Signal.call : Signal → Call
  | .element => .event .element
  | .reset => .event .reset
  | .timeTrigger => .timeTrigger
  | .payload bytes => .event (.receive 0 bytes)

/-- The payload of a signal. -/
def Signal.payload? : Signal → Option (List UInt8)
  | .element | .reset | .timeTrigger => none
  | .payload bytes => some bytes

/-- A new panel with one controller behind some signals. -/
def tune
    (trigger : Trigger)
    (subtask : Nat)
    (signals : List Signal) : Panel :=
  (ofTrigger trigger subtask 1).callAll (signals.map Signal.call)

/-- The adjustments among some signals. -/
def adjustments (signals : List Signal) : List Int :=
  Adjustment.deltas (signals.filterMap Signal.payload?)

theorem tune_concat
    (trigger : Trigger)
    (subtask : Nat)
    (signals : List Signal)
    (signal : Signal) :
    tune trigger subtask (signals ++ [signal]) =
      ((tune trigger subtask signals).call signal.call).1 := by
  rw [tune, callAll, List.map_append, List.foldl_append]
  rfl

/-- The only controller of a panel tracks some payloads. -/
def TracksAlone
    (panel : Panel)
    (threshold : Nat)
    (payloads : List (List UInt8)) : Prop :=
  ∃ controller, panel.controllers = [controller] ∧
    controller.Tracks threshold (Adjustment.deltas payloads) panel.trigger.maxCount

theorem TracksAlone.call
    {panel : Panel}
    {threshold : Nat}
    {payloads : List (List UInt8)}
    (tracks : panel.TracksAlone threshold payloads)
    (signal : Signal) :
    (panel.call signal.call).1.TracksAlone threshold
      (payloads ++ signal.payload?.toList) := by
  obtain ⟨controller, alone, controllerTracks⟩ := tracks
  cases signal with
  | element =>
      refine ⟨controller, alone, ?_⟩
      simp only [Signal.payload?, Option.toList_none, List.append_nil, Signal.call, Panel.call,
        Panel.step, Trigger.maxCount_onElement]
      exact controllerTracks
  | reset =>
      refine ⟨controller, alone, ?_⟩
      simp only [Signal.payload?, Option.toList_none, List.append_nil, Signal.call, Panel.call,
        Panel.step, Trigger.maxCount_reset]
      exact controllerTracks
  | timeTrigger =>
      refine ⟨controller, alone, ?_⟩
      simp only [Signal.payload?, Option.toList_none, List.append_nil, Signal.call, Panel.call,
        Trigger.timeTrigger, Trigger.maxCount_reset]
      exact controllerTracks
  | payload bytes =>
      have present : panel.controllers[0]? = some controller := by
        rw [alone]
        rfl
      simp only [Signal.payload?, Option.toList_some, Signal.call, Panel.call, Panel.step, present]
      refine ⟨(controller.receive panel.trigger bytes).1, ?_, controllerTracks.receive bytes⟩
      simp only [setController, alone, List.set_cons_zero]

theorem tracksAlone_tune
    (trigger : Trigger)
    (subtask : Nat)
    (signals : List Signal) :
    (tune trigger subtask signals).TracksAlone trigger.maxCount
      (signals.filterMap Signal.payload?) := by
  induction signals using List.reverseRecOn with
  | nil => exact ⟨.ofSubtask subtask, rfl, Controller.tracks_ofSubtask subtask trigger.maxCount⟩
  | append_singleton signals signal inductionHypothesis =>
      have tracks := inductionHypothesis.call signal
      rw [tune_concat, List.filterMap_append]
      cases carried : signal.payload? with
      | none => simpa [carried] using tracks
      | some bytes => simpa [carried] using tracks

/-- The threshold of a trigger that was accepted is, in exact integers, the first one
with the last adjustment that leaves it positive added, cut at the greatest.  Nothing is
left waiting, and two triggers agree as soon as the same adjustment counts for both. -/
theorem maxCount_tune
    {threshold : Nat}
    {trigger : Trigger}
    (isNew : trigger.IsNew threshold)
    (subtask : Nat)
    (signals : List Signal) :
    let panel := tune trigger subtask signals
    let accepted (signals : List Signal) :=
      ((adjustments signals).filter fun delta : Int => 0 < threshold + delta).getLast?
    ((panel.trigger.maxCount : Int) =
      match accepted signals with
      | none => (threshold : Int)
      | some delta => min (threshold + delta) Threshold.greatest) ∧
    1 ≤ panel.trigger.maxCount ∧ panel.trigger.maxCount ≤ Threshold.greatest ∧
    (∀ controller ∈ panel.controllers, controller.tuning.pending = none) ∧
    (∀ (other : Trigger) (otherSubtask : Nat) (otherSignals : List Signal),
      other.IsNew threshold → accepted otherSignals = accepted signals →
      (tune other otherSubtask otherSignals).trigger.maxCount = panel.trigger.maxCount) := by
  intro panel accepted
  obtain ⟨first, positive, bounded⟩ := isNew.maxCount_eq
  obtain ⟨controller, alone, tracks⟩ := tracksAlone_tune trigger subtask signals
  have reached : panel.trigger.maxCount = Threshold.tuned threshold (adjustments signals) := by
    rw [← first]
    exact tracks.maxCount_eq
  refine ⟨?_, ?_, ?_, ?_, ?_⟩
  · rw [reached, Threshold.cast_tuned bounded]
    change (accepted signals).elim _ _ = _
    cases accepted signals with
    | none => rfl
    | some delta => rfl
  · rw [reached]
    exact (Threshold.tuned_mem positive bounded _).1
  · rw [reached]
    exact (Threshold.tuned_mem positive bounded _).2
  · intro member isMember
    rw [alone, List.mem_singleton] at isMember
    subst isMember
    exact tracks.pending_eq
  · intro other otherSubtask otherSignals otherIsNew agree
    obtain ⟨_, _, otherTracks⟩ := tracksAlone_tune other otherSubtask otherSignals
    have otherReached := otherTracks.maxCount_eq
    rw [otherIsNew.maxCount_eq.1] at otherReached
    apply Int.ofNat.inj
    change ((tune other otherSubtask otherSignals).trigger.maxCount : Int) =
      (panel.trigger.maxCount : Int)
    rw [otherReached, reached, Threshold.cast_tuned bounded, Threshold.cast_tuned bounded]
    exact congrArg (Option.elim · _ _) agree

/-- A threshold of ten behind two adjustments that count, a payload that is none and an
adjustment that is rejected, against one that only saw the adjustment that counts. -/
theorem maxCount_tune_ten :
    let signals : List Signal :=
      [.element, .payload (Adjustment.payload 5), .element, .payload [0xff], .reset, .timeTrigger,
        .payload (Adjustment.payload 3), .payload (Adjustment.payload (-20))]
    let trigger : Trigger := ⟨0, 10, none, .global⟩
    let other : Trigger := ⟨0, 10, some 7, .perInstance⟩
    trigger.IsNew 10 ∧ other.IsNew 10 ∧
      ((tune trigger 0 signals).trigger.maxCount : Int) = min (10 + 3) Threshold.greatest ∧
      (tune other 4 [.payload (Adjustment.payload 3)]).trigger.maxCount =
        (tune trigger 0 signals).trigger.maxCount := by
  intro signals trigger other
  have built : Trigger.ofCount 10 .global = .ok trigger := rfl
  have otherBuilt : Trigger.ofCount 10 .perInstance = .ok { other with maxTime := none } := rfl
  have triggerIsNew : trigger.IsNew 10 := .counted none built
  have otherIsNew : other.IsNew 10 := .counted (some 7) otherBuilt
  have tuned := maxCount_tune triggerIsNew 0 signals
  refine ⟨triggerIsNew, otherIsNew, ?_, ?_⟩
  · exact tuned.1.trans (by decide +kernel)
  · exact tuned.2.2.2.2 other 4 _ otherIsNew (by decide +kernel)

end Panel
end PreAggregation
