import PreAggregation.Operator.Chain
import PreAggregation.Operator.Task
import PreAggregation.Sensor.Report
import PreAggregation.Sensor.Source
import PreAggregation.Stage.Construction
import PreAggregation.Stage.Session

/-!
# The sensor-average job

The lines of a source are dealt to the tasks in turn.  Each task turns lines into
samples and combines the samples of each sensor; the report gathers the partials of
all tasks.  A job breaks off where the stage of a task cannot have room for its histogram.
-/

namespace PreAggregation
namespace Sensor

/-- The state of the operator of a task: nothing for the tokens, and a stage. -/
abbrev TaskState := Unit × Stage Id SumCount × MemoryBroker

/-- The operator of a task. -/
def operator : Operator TaskState String (Id × SumCount) :=
  (Operator.flatMap tokenize).chain (Stage.operator (.sumCount Id))

/-- Every `tasks`-th item of a list, beginning behind the first `index`. -/
def share {α : Type} (tasks index : Nat) (items : List α) : List α :=
  (items.zipIdx.filter fun item => item.2 % tasks = index).map Prod.fst

/-- What reaches a task from its share of the lines.  The mark behind the last line
follows if the source came to its end. -/
def arrivals (now : Instant) (lines : List String) (complete : Bool) :
    List (Instant × Arrival TaskState String) :=
  lines.map (fun line => (now, .element (.record line none))) ++
    if complete then [(now, .element .finished)] else []

/-- What a job is asked to do. -/
structure Options where
  /-- The number of tasks. -/
  parallelism : Nat
  /-- The settings of the stages. -/
  config : Config
  /-- Where the stages look for adjustments. -/
  link : ControlLink
  /-- Where the lines come from. -/
  source : Source

/-- Runs a task on its share of the lines. -/
def runTask (options : Options) (now : Instant) (index : Nat) (feed : Feed) :
    Except Obstacle (Task.Run TaskState String (Id × SumCount)) := do
  let stage ← Stage.construct options.config options.link now
  let subtask : Subtask := ⟨"pre-aggregate", index, options.parallelism⟩
  return Task.run operator subtask now now true
    (arrivals now (share options.parallelism index feed.lines) feed.complete)
    ((), stage, .empty)

/-- The report of the tasks of a job.  It needs the end of every task. -/
def gather (tasks : Nat) (elements : List (Element (Id × SumCount))) (stats : List TaskStats) :
    Except Error Report :=
  let gathered := Gathered.untilEnded tasks {} elements
  if gathered.ended < tasks then .error ⟨.channel .sendersGone, []⟩
  else .ok (.ofGathered gathered ((stats.map TaskStats.recordsIn).foldr (· + ·) 0) tasks)

/-- Runs a job, with the tasks one after another. -/
def run (options : Options) (now : Instant) : Except Obstacle Report := do
  if options.parallelism = 0 then throw (Obstacle.refused ⟨.noTasks, []⟩)
  options.config.validate.mapError Obstacle.refused
  let feed := options.source.feed
  let tasks ← (List.range options.parallelism).mapM fun index =>
    runTask options now index feed
  (gather options.parallelism (tasks.flatMap Task.Run.sent)
    (tasks.map Task.Run.stats)).mapError Obstacle.refused

end Sensor
end PreAggregation
