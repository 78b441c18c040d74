import PreAggregation.Element
import PreAggregation.Operator.Basic

/-!
# Tasks

A task opens an operator, hands it what arrives, passes on what it emits, and closes
it.  The mark behind the last record ends the task; if the arrivals end without it the
senders are gone.
-/

namespace PreAggregation

/-- What a task counts. -/
structure TaskStats where
  /-- The records that arrived. -/
  recordsIn : Nat := 0
  /-- The records that were passed on. -/
  recordsOut : Nat := 0
  /-- The watermarks that arrived. -/
  watermarks : Nat := 0
  /-- The ticks of the clock. -/
  ticks : Nat := 0
  deriving DecidableEq, Repr

/-- What can reach a task. -/
inductive Arrival (σ ι : Type)
  /-- An element of its input. -/
  | element (element : Element ι)
  | tick (time : Int)
  /-- A change of the operator from outside, such as that of a threshold. -/
  | outside (change : σ → σ)

namespace Task

variable {σ ι ο : Type}

/-- A task in the course of its run. -/
structure Progress (σ ο : Type) where
  /-- The state of the operator. -/
  state : σ
  /-- What the task has counted. -/
  stats : TaskStats := {}
  /-- What the task sends because of the last arrival. -/
  sent : List (Element ο) := []
  /-- Whether the last arrival was handled. -/
  result : Except Error Unit := .ok ()
  /-- Whether the last arrival ended the input. -/
  ended : Bool := false

/-- Passes on what a step emitted and, behind it, a mark.  Nothing is sent for a step
that failed, or to a receiver that is gone. -/
def forward (receiver : Bool) (stats : TaskStats) (step : Step σ ο) (mark : Option (Element ο)) :
    Progress σ ο :=
  match step.result with
  | .error error => { state := step.state, stats, result := .error error }
  | .ok () =>
      let sent := step.emitted.map (Element.record · none) ++ mark.toList
      if receiver || sent.isEmpty then
        { state := step.state, sent
          stats := { stats with recordsOut := stats.recordsOut + step.emitted.length } }
      else
        { state := step.state, stats, result := .error ⟨.channel .receiverGone, []⟩ }

/-- Handles one arrival. -/
def handle (operator : Operator σ ι ο) (receiver : Bool) (now : Instant) (state : σ)
    (stats : TaskStats) : Arrival σ ι → Progress σ ο
  | .element (.record value _) =>
      forward receiver { stats with recordsIn := stats.recordsIn + 1 }
        (operator.process now [value] state) none
  | .element (.watermark time) =>
      forward receiver { stats with watermarks := stats.watermarks + 1 }
        (operator.timer now .eventTime time state) (some (.watermark time))
  | .element .finished =>
      { forward receiver stats (operator.finish now state) (some .finished) with ended := true }
  | .tick time =>
      forward receiver { stats with ticks := stats.ticks + 1 }
        (operator.timer now .processingTime time state) none
  | .outside change => { state := change state, stats }

/-- A task that has come to its end. -/
structure Run (σ ι ο : Type) where
  /-- The state of the operator. -/
  state : σ
  /-- What the task counted. -/
  stats : TaskStats
  /-- What the task sent. -/
  sent : List (Element ο)
  /-- What the task did not take from its input. -/
  rest : List (Instant × Arrival σ ι)
  /-- Whether the task succeeded. -/
  result : Except Error Unit

/-- Handles arrivals up to the mark behind the last record or to the first failure,
behind the elements of `sent` in reverse. -/
def loopFrom (operator : Operator σ ι ο) (receiver : Bool) (state : σ) (stats : TaskStats)
    (sent : List (Element ο)) : List (Instant × Arrival σ ι) → Run σ ι ο
  | [] => ⟨state, stats, sent.reverse, [], .error ⟨.channel .sendersGone, []⟩⟩
  | (now, arrival) :: rest =>
      let progress := handle operator receiver now state stats arrival
      let sent := progress.sent.reverse ++ sent
      match progress.result with
      | .error error => ⟨progress.state, progress.stats, sent.reverse, rest, .error error⟩
      | .ok () =>
          if progress.ended then ⟨progress.state, progress.stats, sent.reverse, rest, .ok ()⟩
          else loopFrom operator receiver progress.state progress.stats sent rest

/-- Handles arrivals up to the mark behind the last record or to the first failure. -/
def loop (operator : Operator σ ι ο) (receiver : Bool) (state : σ)
    (arrivals : List (Instant × Arrival σ ι)) : Run σ ι ο :=
  loopFrom operator receiver state {} [] arrivals

/-- Runs a task.  The operator is closed whatever happened since it was opened; the
failure of the loop is told rather than that of closing. -/
def run (operator : Operator σ ι ο) (subtask : Subtask) (opened closed : Instant)
    (receiver : Bool) (arrivals : List (Instant × Arrival σ ι)) (state : σ) : Run σ ι ο :=
  let start := operator.start opened subtask state
  match start.result with
  | .error error =>
      ⟨start.state, {}, [], arrivals, .error (error.within (.task .opening subtask))⟩
  | .ok () =>
      let looped := loop operator receiver start.state arrivals
      let stop := operator.stop closed looped.state
      { looped with
        state := stop.state
        result :=
          match looped.result, stop.result with
          | .error error, _ => .error (error.within (.task .running subtask))
          | .ok (), .error error => .error (error.within (.task .closing subtask))
          | .ok (), .ok () => .ok () }

end Task
end PreAggregation
