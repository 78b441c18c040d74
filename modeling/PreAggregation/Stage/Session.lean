import PreAggregation.Control.Broker.Memory
import PreAggregation.Controller.Panel
import PreAggregation.Stage.Records

/-!
# Sessions of a stage

From opening to closing a stage has a controller, and a subscription at its broker if
its strategy has a topic and the broker takes the subscription.  Without a
subscription the stage runs with the threshold it has.
-/

namespace PreAggregation
namespace Stage

variable {κ ν ι ο : Type}

/-- Gives up the subscription. -/
def stopListening (stage : Stage κ ν) (broker : MemoryBroker) : Stage κ ν × MemoryBroker :=
  match stage.listening with
  | none => (stage, broker)
  | some listening =>
      ({ stage with listening := none }, broker.unsubscribe listening.subscription)

/-- Subscribes for a subtask, where there is a topic and a broker. -/
def startListening (stage : Stage κ ν) (index : Nat) (broker : MemoryBroker) :
    Stage κ ν × MemoryBroker :=
  match stage.config.strategy.topic? stage.config.controlTopic index, stage.link with
  | some topic, .broker =>
      let (broker, subscription) := broker.subscribe topic
      ({ stage with listening := some { topic, subscription } }, broker)
  | some _, .absent | some _, .unreachable | none, _ => (stage, broker)

/-- Opens the stage for a subtask.  Nothing of an earlier session is left but the
threshold, the number of flushes and the metrics. -/
def start (stage : Stage κ ν) (now : Instant) (subtask : Subtask) (broker : MemoryBroker) :
    Stage κ ν × MemoryBroker :=
  let (stopped, broker) := stage.stopListening broker
  -- There is room for the histogram, as there was when the stage was constructed.
  let fresh := { stopped with
    bundle := .empty
    trigger := stopped.trigger.reset
    histogram := .ofWindow stopped.config.histogramWindow.toNat
    lastFlush := now
    subtask := some subtask
    controller := some (.ofSubtask subtask.index) }
  fresh.startListening subtask.index broker

/-- Closes the stage.  What is in the bundle is lost. -/
def stop (stage : Stage κ ν) (broker : MemoryBroker) : Stage κ ν × MemoryBroker :=
  let (stopped, broker) := stage.stopListening broker
  ({ stopped with controller := none, bundle := .empty }, broker)

/-- Hands a payload to the controller. -/
def receive (stage : Stage κ ν) (payload : List UInt8) : Stage κ ν :=
  match stage.controller with
  | none => stage
  | some controller =>
      let (controller, trigger, result) := controller.receive stage.trigger payload
      { stage with
        controller := some controller, trigger, ledger := stage.ledger.recordReceived result }

/-- Takes one payload from the subscription, if there is one, and handles it. -/
def listen (stage : Stage κ ν) (broker : MemoryBroker) : Stage κ ν × MemoryBroker :=
  match stage.listening with
  | none => (stage, broker)
  | some listening =>
      match broker.tryReceive listening.subscription with
      | .ok (some payload, broker) => (stage.receive payload, broker)
      | .ok (none, broker) => (stage, broker)
      | .error _ => (stage, broker)

/-- The number of payloads that the stage has not taken from its subscription. -/
def backlog (stage : Stage κ ν) (broker : MemoryBroker) : Nat :=
  match stage.listening with
  | none => 0
  | some listening => ((broker.find? listening.subscription).map (·.queue.length)).getD 0

/-- Takes all payloads from the subscription and handles them. -/
def listenAll (stage : Stage κ ν) (broker : MemoryBroker) : Stage κ ν × MemoryBroker :=
  (List.range (stage.backlog broker)).foldl (fun (stage, broker) _ => stage.listen broker)
    (stage, broker)

/-- Sets the threshold from outside, and tells whether it is another one now. -/
def setMaxCount (stage : Stage κ ν) (maxCount : Nat) : Stage κ ν × Bool :=
  let (trigger, changed) := stage.trigger.setMaxCount maxCount
  ({ stage with trigger }, changed)

/-- Lets the controller compute a threshold without applying it. -/
def propose (stage : Stage κ ν) (delta : Int) : Stage κ ν × Option Outcome :=
  match stage.controller with
  | none => (stage, none)
  | some controller =>
      let (controller, outcome) := controller.propose stage.trigger.maxCount delta
      ({ stage with controller := some controller }, some outcome)

/-- Lets the controller apply the threshold that waits. -/
def applyPending (stage : Stage κ ν) : Stage κ ν × Option Outcome :=
  match stage.controller with
  | none => (stage, none)
  | some controller =>
      let (controller, trigger, outcome) := controller.applyPending stage.trigger
      ({ stage with controller := some controller, trigger }, outcome)

/-- Lets the controller make an adjustment. -/
def adjust (stage : Stage κ ν) (delta : Int) : Stage κ ν × Option Outcome :=
  match stage.controller with
  | none => (stage, none)
  | some controller =>
      let (controller, trigger, outcome) := controller.adjust stage.trigger delta
      ({ stage with
          controller := some controller, trigger
          ledger := stage.ledger.recordAdjustment outcome.kind }, some outcome)

variable [DecidableEq κ]

/-- The operator that a stage is, with the broker at which it listens. -/
def operator (aggregation : Aggregation κ ν ι ο) :
    Operator (Stage κ ν × MemoryBroker) ι ο where
  start now subtask state := { state := state.1.start now subtask state.2 }
  process now records state :=
    (processBatch aggregation now records state.1).mapState (·, state.2)
  timer now domain _ state :=
    match domain with
    | .eventTime => { state := state }
    | .processingTime => (onProcessingTime aggregation now state.1).mapState (·, state.2)
  finish now state := (onEnd aggregation now state.1).mapState (·, state.2)
  stop _ state := { state := state.1.stop state.2 }

end Stage
end PreAggregation
