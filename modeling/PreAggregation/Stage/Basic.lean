import PreAggregation.Aggregation
import PreAggregation.Controller.Basic
import PreAggregation.Metrics.Histogram
import PreAggregation.Metrics.Ledger
import PreAggregation.Operator.Basic

/-!
# Stages

A stage folds records into a bundle and flushes the bundle when its trigger fires.
This module holds the state of a stage and how it comes to be.
-/

namespace PreAggregation

/-- Where a stage looks for adjustments. -/
inductive ControlLink
  /-- Nowhere. -/
  | absent
  /-- At the broker that it is opened with. -/
  | broker
  /-- At a broker that takes no subscriptions. -/
  | unreachable
  deriving DecidableEq, Repr

/-- The subscription on which a stage listens. -/
structure Listening where
  /-- The topic. -/
  topic : String
  /-- The number of the subscription at the broker. -/
  subscription : Nat
  deriving DecidableEq, Repr

/-- One instance of a stage, with partials of type `ν` for keys of type `κ`. -/
structure Stage (κ ν : Type) where
  /-- The settings. -/
  config : Config
  /-- The trigger. -/
  trigger : Trigger
  /-- Where the stage looks for adjustments. -/
  link : ControlLink
  /-- The partials of the records since the last flush. -/
  bundle : Bundle κ ν
  /-- The intervals between the latest flushes. -/
  histogram : Histogram
  /-- When the last flush was, or the opening before it. -/
  lastFlush : Instant
  /-- The controller of the trigger, while the stage is open. -/
  controller : Option Controller
  /-- The subscription on which the stage listens, while it is open and has one. -/
  listening : Option Listening
  /-- The subtask for which the stage was last opened. -/
  subtask : Option Subtask
  /-- The number of flushes. -/
  flushCount : Nat
  /-- The metrics. -/
  ledger : Ledger

namespace Stage

variable {κ ν : Type}

/-- A stage around a trigger, whether or not there can be room for its histogram. -/
def ofTrigger (config : Config) (trigger : Trigger) (link : ControlLink) (now : Instant) :
    Except Error (Stage κ ν) := do
  config.validate
  return {
    config, trigger, link
    bundle := .empty
    histogram := .ofWindow config.histogramWindow.toNat
    lastFlush := now
    controller := none
    listening := none
    subtask := none
    flushCount := 0
    ledger := .empty }

/-- Whether adjustments reach the stage. -/
def isAdaptive (stage : Stage κ ν) : Bool :=
  stage.listening.isSome

/-- The topic on which the stage listens. -/
def topic? (stage : Stage κ ν) : Option String :=
  stage.listening.map Listening.topic

end Stage
end PreAggregation
