import PreAggregation.Stage.Session

/-!
# Deployments

A deployment is any number of stages that listen at one broker.
-/

namespace PreAggregation

/-- Stages that listen at one broker. -/
structure Deployment (κ ν : Type) where
  /-- The broker. -/
  broker : MemoryBroker
  /-- The stages. -/
  stages : List (Stage κ ν)

namespace Deployment

variable {κ ν ι ο : Type}

/-- A deployment before any stage is opened. -/
def ofStages (stages : List (Stage κ ν)) : Deployment κ ν :=
  ⟨.empty, stages⟩

/-- What can happen to a deployment apart from its records. -/
inductive Event
  | start (stage : Nat) (now : Instant) (subtask : Subtask)
  | stop (stage : Nat)
  | publish (topic : String) (payload : List UInt8)
  /-- A stage handles one payload of its subscription. -/
  | listen (stage : Nat)

/-- The deployment with one of its stages changed together with the broker. -/
def change (deployment : Deployment κ ν) (index : Nat)
    (make : Stage κ ν → MemoryBroker → Stage κ ν × MemoryBroker) : Deployment κ ν :=
  match deployment.stages[index]? with
  | none => deployment
  | some stage =>
      let (stage, broker) := make stage deployment.broker
      ⟨broker, deployment.stages.set index stage⟩

/-- What an event makes of a deployment. -/
def step (deployment : Deployment κ ν) : Event → Deployment κ ν
  | .start index now subtask => deployment.change index fun stage => stage.start now subtask
  | .stop index => deployment.change index Stage.stop
  | .publish topic payload =>
      { deployment with broker := (deployment.broker.publish topic payload).1 }
  | .listen index => deployment.change index Stage.listen

/-- The deployment after a history of events. -/
def run (deployment : Deployment κ ν) (events : List Event) : Deployment κ ν :=
  events.foldl step deployment

/-- The deployment after every stage has handled all payloads of its subscription. -/
def settle (deployment : Deployment κ ν) : Deployment κ ν :=
  (List.range deployment.stages.length).foldl
    (fun deployment index => deployment.change index Stage.listenAll) deployment

/-- Publishes a payload, lets every stage handle it, and gives the number of
subscribers that it reached. -/
def publish (deployment : Deployment κ ν) (topic : String) (payload : List UInt8) :
    Deployment κ ν × Nat :=
  let (broker, reached) := deployment.broker.publish topic payload
  ({ deployment with broker }.settle, reached)

/-- The metrics of all stages together. -/
def ledger (deployment : Deployment κ ν) : Ledger :=
  .total (deployment.stages.map Stage.ledger)

end Deployment
end PreAggregation
