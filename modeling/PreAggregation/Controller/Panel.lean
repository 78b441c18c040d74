import PreAggregation.Controller.Basic
import PreAggregation.Metrics.Ledger

/-!
# Panels

A panel is a trigger with the controllers that share it and the metrics that they
report.
-/

namespace PreAggregation

/-- The metrics with the outcome of a payload, if the payload was an adjustment. -/
def Ledger.recordReceived (ledger : Ledger) : Except Error Outcome → Ledger
  | .ok outcome => ledger.recordAdjustment outcome.kind
  | .error _ => ledger

/-- A trigger and its controllers. -/
structure Panel where
  /-- The trigger that all controllers change. -/
  trigger : Trigger
  /-- The controllers. -/
  controllers : List Controller
  /-- The metrics of all controllers. -/
  ledger : Ledger := .empty
  deriving DecidableEq, Repr

namespace Panel

/-- A panel with `count` new controllers for the subtasks from `subtask` on. -/
def ofTrigger (trigger : Trigger) (subtask count : Nat) : Panel where
  trigger := trigger
  controllers := (List.range count).map fun offset => .ofSubtask (subtask + offset)

/-- What can happen to a panel. -/
inductive Event
  | element
  | reset
  /-- The threshold is set from outside. -/
  | setMaxCount (maxCount : Nat)
  | propose (controller : Nat) (delta : Int)
  | applyPending (controller : Nat)
  | adjust (controller : Nat) (delta : Int)
  | receive (controller : Nat) (payload : List UInt8)

/-- What an event answers. -/
inductive Answer
  | none
  | fires (fires : Bool)
  | changed (changed : Bool)
  | outcome (outcome : Outcome)
  /-- The payload was no adjustment. -/
  | failed (error : Error)
  deriving DecidableEq, Repr

/-- The panel with one of its controllers replaced. -/
def setController (panel : Panel) (index : Nat) (controller : Controller) : Panel :=
  { panel with controllers := panel.controllers.set index controller }

/-- What an event makes of a panel.  Events for controllers that do not exist are
without effect. -/
def step (panel : Panel) : Event → Panel × Answer
  | .element =>
      let (trigger, fires) := panel.trigger.onElement
      ({ panel with trigger }, .fires fires)
  | .reset => ({ panel with trigger := panel.trigger.reset }, .none)
  | .setMaxCount maxCount =>
      let (trigger, changed) := panel.trigger.setMaxCount maxCount
      ({ panel with trigger }, .changed changed)
  | .propose index delta =>
      match panel.controllers[index]? with
      | none => (panel, .none)
      | some controller =>
          let (controller, outcome) := controller.propose panel.trigger.maxCount delta
          (panel.setController index controller, .outcome outcome)
  | .applyPending index =>
      match panel.controllers[index]? with
      | none => (panel, .none)
      | some controller =>
          let (controller, trigger, outcome) := controller.applyPending panel.trigger
          ({ panel.setController index controller with trigger }, outcome.elim .none .outcome)
  | .adjust index delta =>
      match panel.controllers[index]? with
      | none => (panel, .none)
      | some controller =>
          let (controller, trigger, outcome) := controller.adjust panel.trigger delta
          ({ panel.setController index controller with
              trigger, ledger := panel.ledger.recordAdjustment outcome.kind }, .outcome outcome)
  | .receive index payload =>
      match panel.controllers[index]? with
      | none => (panel, .none)
      | some controller =>
          let (controller, trigger, result) := controller.receive panel.trigger payload
          let ledger := panel.ledger.recordReceived result
          ({ panel.setController index controller with trigger, ledger },
            match result with
            | .ok outcome => .outcome outcome
            | .error error => .failed error)

/-- The panel after a history of events. -/
def run (panel : Panel) (events : List Event) : Panel :=
  events.foldl (fun panel event => (panel.step event).1) panel

/-- A call on a trigger or on one of its controllers. -/
inductive Call
  | event (event : Event)
  /-- The time has come, and the trigger fires. -/
  | timeTrigger

/-- What a call makes of a panel. -/
def call (panel : Panel) : Call → Panel × Answer
  | .event event => panel.step event
  | .timeTrigger =>
      let (trigger, fires) := panel.trigger.timeTrigger
      ({ panel with trigger }, .fires fires)

/-- The panel after some calls. -/
def callAll (panel : Panel) (calls : List Call) : Panel :=
  calls.foldl (fun panel call => (panel.call call).1) panel

end Panel
end PreAggregation
