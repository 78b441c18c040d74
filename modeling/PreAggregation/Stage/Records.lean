import PreAggregation.Stage.Basic

/-!
# The records of a stage

A record is folded into the bundle, and the bundle is flushed if the trigger fires.  A
flush that fails emits nothing and keeps the bundle.
-/

namespace PreAggregation
namespace Stage

variable {κ ν ι ο : Type}

/-- The time in whole milliseconds since the last flush. -/
def intervalMs (stage : Stage κ ν) (now : Instant) : Nat :=
  (now - stage.lastFlush) / 1000000

/-- The stage after a flush of its bundle into so many outputs. -/
def flushed (stage : Stage κ ν) (now : Instant) (outputs : Nat) : Stage κ ν :=
  { stage with
    bundle := .empty
    trigger := stage.trigger.reset
    histogram := stage.histogram.update (stage.intervalMs now)
    lastFlush := now
    flushCount := stage.flushCount + 1
    ledger := stage.ledger.recordFlush stage.bundle.size outputs }

/-- Emits the bundle and starts a new one.  An empty bundle emits nothing, and counts
as a flush. -/
def flush (aggregation : Aggregation κ ν ι ο) (now : Instant) (stage : Stage κ ν) :
    Step (Stage κ ν) ο :=
  if stage.bundle.isEmpty then { state := stage.flushed now 0 }
  else
    let collected := aggregation.collect stage.bundle
    match collected.result with
    | .error error =>
        { state := stage, result := .error (error.within (.stage (.combine .collect))) }
    | .ok () =>
        { state := stage.flushed now collected.outputs.length, emitted := collected.outputs }

/-- Emits the bundle because its time has come. -/
def timeTrigger (aggregation : Aggregation κ ν ι ο) (now : Instant) (stage : Stage κ ν) :
    Step (Stage κ ν) ο :=
  flush aggregation now { stage with trigger := stage.trigger.reset }

/-- Emits the bundle if the time threshold has passed since the last flush. -/
def onProcessingTime (aggregation : Aggregation κ ν ι ο) (now : Instant) (stage : Stage κ ν) :
    Step (Stage κ ν) ο :=
  match stage.trigger.maxTime with
  | none => { state := stage }
  | some maxTime =>
      if maxTime ≤ now - stage.lastFlush then timeTrigger aggregation now stage
      else { state := stage }

/-- Emits what is left when there are no more records. -/
def onEnd (aggregation : Aggregation κ ν ι ο) (now : Instant) (stage : Stage κ ν) :
    Step (Stage κ ν) ο :=
  if stage.bundle.isEmpty then { state := stage } else flush aggregation now stage

variable [DecidableEq κ]

/-- Folds a record into the bundle, and emits the bundle if the trigger fires. -/
def processElement (aggregation : Aggregation κ ν ι ο) (now : Instant) (record : ι)
    (stage : Stage κ ν) : Step (Stage κ ν) ο :=
  let merged := stage.bundle.merge (aggregation.key record)
    fun current => aggregation.addInput current record
  match merged.2 with
  | .error error =>
      { state := { stage with bundle := merged.1 }
        result := .error (error.within (.stage (.combine .addInput))) }
  | .ok () =>
      let counted := stage.trigger.onElement
      let next := { stage with bundle := merged.1, trigger := counted.1 }
      if counted.2 then flush aggregation now next else { state := next }

/-- Folds records one after another. -/
def processBatch (aggregation : Aggregation κ ν ι ο) (now : Instant) (records : List ι)
    (stage : Stage κ ν) : Step (Stage κ ν) ο :=
  Step.each (processElement aggregation now) records stage

/-- Flushes, handles some records, and flushes again. -/
def flushTwice (aggregation : Aggregation κ ν ι ο) (now : Instant) (records : List ι)
    (stage : Stage κ ν) : Step (Stage κ ν) ο :=
  ((flush aggregation now stage).andThen (processBatch aggregation now records)).andThen
    (flush aggregation now)

end Stage
end PreAggregation
