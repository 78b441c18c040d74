import PreAggregation.Proofs.Controller.Tracking
import PreAggregation.Proofs.Deployment.Wiring
import PreAggregation.Proofs.Stage.Persistence

/-!
# Stages that heed their payloads

Records, flushes and the end of the input leave the threshold and the controller of a
stage as they are.  So a stage whose threshold nobody sets from outside has at every time
the threshold that the payloads make of the one it was opened with, whatever it has
computed in between.
-/

namespace PreAggregation
namespace Stage

variable {κ ν : Type}

/-! ## What leaves the threshold alone -/

/-- A stage has come from another one, with its controller and its threshold. -/
structure KeepsTuning (original later : Stage κ ν) : Prop where
  /-- The controller. -/
  controller_eq : later.controller = original.controller
  /-- The threshold. -/
  maxCount_eq : later.trigger.maxCount = original.trigger.maxCount

theorem KeepsTuning.refl (stage : Stage κ ν) : stage.KeepsTuning stage :=
  ⟨rfl, rfl⟩

theorem KeepsTuning.trans
    {original middle later : Stage κ ν}
    (first : original.KeepsTuning middle)
    (second : middle.KeepsTuning later) :
    original.KeepsTuning later where
  controller_eq := second.controller_eq.trans first.controller_eq
  maxCount_eq := second.maxCount_eq.trans first.maxCount_eq

/-- A controller has received some payloads since it was new, and nothing else has changed
the threshold of the stage. -/
def Heeds
    (stage : Stage κ ν)
    (threshold : Nat)
    (payloads : List (List UInt8)) : Prop :=
  ∃ controller, stage.controller = some controller ∧
    controller.Tracks threshold (Adjustment.deltas payloads) stage.trigger.maxCount

section Heeds

variable {stage : Stage κ ν} {threshold : Nat} {payloads : List (List UInt8)}

theorem Heeds.maxCount_eq
    (heeds : stage.Heeds threshold payloads) :
    stage.trigger.maxCount = Threshold.tuned threshold (Adjustment.deltas payloads) := by
  obtain ⟨_, _, tracks⟩ := heeds
  exact tracks.maxCount_eq

theorem Heeds.of_keepsTuning
    (heeds : stage.Heeds threshold payloads)
    {later : Stage κ ν}
    (keeps : stage.KeepsTuning later) :
    later.Heeds threshold payloads := by
  obtain ⟨controller, present, tracks⟩ := heeds
  refine ⟨controller, keeps.controller_eq.trans present, ?_⟩
  rw [keeps.maxCount_eq]
  exact tracks

theorem Heeds.receive
    (heeds : stage.Heeds threshold payloads)
    (payload : List UInt8) :
    (stage.receive payload).Heeds threshold (payloads ++ [payload]) := by
  obtain ⟨controller, present, tracks⟩ := heeds
  rw [Stage.receive, present]
  exact ⟨_, rfl, tracks.receive payload⟩

/-- A stage that is opened has a new controller. -/
theorem heeds_start
    (stage : Stage κ ν)
    (now : Instant)
    (subtask : Subtask)
    (broker : MemoryBroker) :
    (stage.start now subtask broker).1.Heeds stage.trigger.maxCount [] := by
  have fresh : (stage.reopened now subtask).Heeds stage.trigger.maxCount [] :=
    ⟨_, rfl, Controller.tracks_ofSubtask subtask.index stage.trigger.maxCount⟩
  rw [start_eq, startListening_eq]
  split
  · exact fresh.of_keepsTuning ⟨rfl, rfl⟩
  · exact fresh

end Heeds

/-! ## Requests -/

end Stage

namespace Bench

open Stage

variable {φ κ ν ι ο : Type}

/-- Whether a request leaves the threshold to the payloads. -/
def Request.isTame : Request ι → Bool
  | .batch _ | .flush _ | .timeTrigger _ | .tick .. | .finish _ | .change (.receive _) => true
  | .change (.setMaxCount _) | .change (.propose _) | .change .applyPending
  | .change (.adjust _) => false

/-- The payload that a request hands to the controller, if there is one. -/
def Request.received : Request ι → List (List UInt8)
  | .change (.receive payload) => [payload]
  | .batch _ | .flush _ | .timeTrigger _ | .tick .. | .finish _ | .change (.setMaxCount _)
  | .change (.propose _) | .change .applyPending | .change (.adjust _) => []

/-- The payloads that some requests hand to the controller. -/
def receivedIn (requests : List (List ο × Request ι)) : List (List UInt8) :=
  requests.flatMap fun asked => asked.2.received

section Requests

variable [DecidableEq κ] {threshold : Nat} {payloads : List (List UInt8)}

theorem lasting_keepsTuning : Lasting (@KeepsTuning κ ν) where
  refl := KeepsTuning.refl
  trans := KeepsTuning.trans
  flushed _ _ _ := ⟨rfl, rfl⟩
  reset _ := ⟨rfl, rfl⟩
  withMerged stage _ _ := ⟨rfl, Trigger.maxCount_onElement stage.trigger⟩
  withoutKey _ _ := ⟨rfl, rfl⟩

theorem heeds_serve
    (combiner : Combiner φ κ ν ι ο)
    {bench : Bench φ κ ν ο}
    (heeds : bench.stage.Heeds threshold payloads)
    {request : Request ι}
    (tame : request.isTame = true) :
    (serve combiner bench request).state.stage.Heeds threshold
      (payloads ++ request.received) := by
  have idle (silent : request.received = []) (unchanged : ∀ change, request ≠ .change change) :
      (serve combiner bench request).state.stage.Heeds threshold
        (payloads ++ request.received) := by
    rw [silent, List.append_nil]
    exact heeds.of_keepsTuning (lasting_keepsTuning.serve combiner bench request
      fun change isChange => absurd isChange (unchanged change))
  cases request with
  | batch arrivals => exact idle rfl nofun
  | flush now => exact idle rfl nofun
  | timeTrigger now => exact idle rfl nofun
  | tick asked now => exact idle rfl nofun
  | finish now => exact idle rfl nofun
  | change change =>
      cases change with
      | receive payload => exact heeds.receive payload
      | setMaxCount maxCount => exact absurd tame (by simp [Request.isTame])
      | propose delta => exact absurd tame (by simp [Request.isTame])
      | applyPending => exact absurd tame (by simp [Request.isTame])
      | adjust delta => exact absurd tame (by simp [Request.isTame])

theorem Life.heeds_serve
    (combiner : Combiner φ κ ν ι ο)
    (memory : φ)
    {stage : Stage κ ν}
    (heeds : stage.Heeds threshold payloads)
    {requests : List (List ο × Request ι)}
    (tame : ∀ asked ∈ requests, asked.2.isTame = true) :
    (Life.serve combiner memory stage requests).bench.stage.Heeds threshold
      (payloads ++ receivedIn requests) := by
  induction requests using List.reverseRecOn with
  | nil =>
      rw [receivedIn, List.flatMap_nil, List.append_nil]
      exact heeds
  | append_singleton requests asked inductionHypothesis =>
      have before := inductionHypothesis fun asked member =>
        tame asked (List.mem_append_left _ member)
      let bench := { (Life.serve combiner memory stage requests).bench with output := asked.1 }
      have handed : bench.stage.Heeds threshold (payloads ++ receivedIn requests) := before
      rw [Life.serve_concat, receivedIn, List.flatMap_append, List.flatMap_singleton,
        ← List.append_assoc]
      exact Bench.heeds_serve combiner handed (tame asked (by simp))

end Requests

end Bench
end PreAggregation
