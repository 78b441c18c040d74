import PreAggregation.Stage.Session

/-!
# Stages with an output buffer

A stage pushes its outputs onto a buffer that it is handed.  The function that combines the
records may remember things between its calls.  It pushes outputs before it knows whether it
succeeds, and if it does not they are taken off again.
-/

namespace PreAggregation

/-- A function with a memory `φ` that combines records of type `ι` by keys `κ` into partials
`ν`, and pushes outputs `ο` onto a buffer. -/
structure Combiner (φ κ ν ι ο : Type) where
  /-- The key of a record. -/
  key : ι → κ
  /-- Folds a record into the partial of its key, if there is one since the last flush. -/
  addInput : φ → Option ν → ι → φ × Except Error ν
  /-- Pushes the outputs of a bundle, up to the place where it fails. -/
  collect : φ → Bundle κ ν → List ο → φ × List ο × Except Error Unit
  /-- What is in the buffer stays where it is, and the outputs stand behind it. -/
  collect_pushes : ∀ memory bundle output, output <+: (collect memory bundle output).2.1

/-- An aggregation pushes its outputs behind those that are there, and remembers nothing. -/
def Combiner.ofAggregation {κ ν ι ο : Type} (aggregation : Aggregation κ ν ι ο) :
    Combiner Unit κ ν ι ο where
  key := aggregation.key
  addInput _ current record := ((), aggregation.addInput current record)
  collect _ bundle output :=
    let collected := aggregation.collect bundle
    ((), output ++ collected.outputs, collected.result)
  collect_pushes _ _ output := List.prefix_append output _

/-- The function, where each time the bundle is visited in an order of its own.  How often it
was visited is part of what is remembered.  It is a function as any other, so that what is true
of all functions is true under all orders of visiting. -/
def Combiner.visiting {φ κ ν ι ο : Type} (combiner : Combiner φ κ ν ι ο)
    (visits : Nat → Bundle.Visit κ ν) : Combiner (φ × Nat) κ ν ι ο where
  key := combiner.key
  addInput memory current record :=
    let (next, result) := combiner.addInput memory.1 current record
    ((next, memory.2), result)
  collect memory bundle output :=
    let (next, pushed, result) :=
      combiner.collect memory.1 (bundle.visited (visits memory.2)) output
    ((next, memory.2 + 1), pushed, result)
  collect_pushes memory _ output := combiner.collect_pushes memory.1 _ output

/-- What the function pushes and remembers does not depend on what is in the buffer. -/
def Combiner.Appends {φ κ ν ι ο : Type} (combiner : Combiner φ κ ν ι ο) : Prop :=
  ∀ memory bundle output, combiner.collect memory bundle output =
    let (next, pushed, result) := combiner.collect memory bundle []
    (next, output ++ pushed, result)

/-- A stage at work. -/
structure Bench (φ κ ν ο : Type) where
  /-- What the function of the stage remembers. -/
  memory : φ
  /-- The stage. -/
  stage : Stage κ ν
  /-- The buffer that the stage is handed. -/
  output : List ο

namespace Bench

variable {φ κ ν ι ο : Type}

/-- Emits the bundle and starts a new one.  If that fails the buffer is cut back to the
length that it had before. -/
def flush (combiner : Combiner φ κ ν ι ο) (now : Instant) (bench : Bench φ κ ν ο) :
    Attempt (Bench φ κ ν ο) :=
  let emittedFrom := bench.output.length
  if bench.stage.bundle.isEmpty then
    { state := { bench with stage := bench.stage.flushed now 0 } }
  else
    match combiner.collect bench.memory bench.stage.bundle bench.output with
    | (memory, output, .error error) =>
        { state := { bench with memory, output := output.take emittedFrom }
          result := .error (error.within (.stage (.combine .collect))) }
    | (memory, output, .ok ()) =>
        { state := ⟨memory, bench.stage.flushed now (output.length - emittedFrom), output⟩ }

/-- Emits the bundle if the trigger fires because its time has come. -/
def timeTrigger (combiner : Combiner φ κ ν ι ο) (now : Instant) (bench : Bench φ κ ν ο) :
    Attempt (Bench φ κ ν ο) :=
  let (trigger, fires) := bench.stage.trigger.timeTrigger
  let next := { bench with stage := { bench.stage with trigger } }
  if fires then flush combiner now next else { state := next }

/-- Emits the bundle if the time threshold has passed since the last flush.  The clock is
read first for the threshold, and then for the flush. -/
def onProcessingTime (combiner : Combiner φ κ ν ι ο) (asked now : Instant)
    (bench : Bench φ κ ν ο) : Attempt (Bench φ κ ν ο) :=
  match bench.stage.trigger.maxTime with
  | none => { state := bench }
  | some maxTime =>
      if maxTime ≤ asked - bench.stage.lastFlush then timeTrigger combiner now bench
      else { state := bench }

/-- Emits what is left when there are no more records. -/
def onEnd (combiner : Combiner φ κ ν ι ο) (now : Instant) (bench : Bench φ κ ν ο) :
    Attempt (Bench φ κ ν ο) :=
  if bench.stage.bundle.isEmpty then { state := bench } else flush combiner now bench

variable [DecidableEq κ]

/-- Folds a record into the bundle, and emits the bundle if the trigger fires. -/
def processElement (combiner : Combiner φ κ ν ι ο) (now : Instant) (record : ι)
    (bench : Bench φ κ ν ο) : Attempt (Bench φ κ ν ο) :=
  let key := combiner.key record
  let (memory, folded) := combiner.addInput bench.memory (bench.stage.bundle.get? key) record
  let (bundle, merged) := bench.stage.bundle.merge key fun _ => folded
  match merged with
  | .error error =>
      { state := { bench with memory, stage := { bench.stage with bundle } }
        result := .error (error.within (.stage (.combine .addInput))) }
  | .ok () =>
      let (trigger, fires) := bench.stage.trigger.onElement
      let next := { bench with memory, stage := { bench.stage with bundle, trigger } }
      if fires then flush combiner now next else { state := next }

/-- Folds records one after another, up to the first that fails.  With each record stands
what the clock shows when it is folded. -/
def processBatch (combiner : Combiner φ κ ν ι ο) :
    List (Instant × ι) → Bench φ κ ν ο → Attempt (Bench φ κ ν ο)
  | [], bench => { state := bench }
  | (now, record) :: rest, bench =>
      let attempt := processElement combiner now record bench
      match attempt.result with
      | .error _ => attempt
      | .ok () => processBatch combiner rest attempt.state

/-- What a hook makes of a function, a stage and a broker, which it hands an empty buffer. -/
def hook (call : Bench φ κ ν ο → Attempt (Bench φ κ ν ο))
    (state : φ × Stage κ ν × MemoryBroker) : Step (φ × Stage κ ν × MemoryBroker) ο :=
  let attempt := call ⟨state.1, state.2.1, []⟩
  ⟨(attempt.state.memory, attempt.state.stage, state.2.2), attempt.state.output, attempt.result⟩

/-- The operator that a stage is, with its function and the broker at which it listens. -/
def operator (combiner : Combiner φ κ ν ι ο) :
    Operator (φ × Stage κ ν × MemoryBroker) ι ο where
  start now subtask state := { state := (state.1, state.2.1.start now subtask state.2.2) }
  process now records := hook (processBatch combiner (records.map (now, ·)))
  timer now domain _ :=
    match domain with
    | .eventTime => fun state => { state := state }
    | .processingTime => hook (onProcessingTime combiner now now)
  finish now := hook (onEnd combiner now)
  stop _ state := { state := (state.1, state.2.1.stop state.2.2) }

end Bench
end PreAggregation
