import PreAggregation.Element
import PreAggregation.Sensor.Sample
import PreAggregation.SumCount

/-!
# Reports

The report of a job gathers what its tasks send: for each sensor the average of its
samples, and the numbers of lines, samples and partials.
-/

namespace PreAggregation
namespace Sensor

/-- What is gathered from the tasks. -/
structure Gathered where
  /-- The partial averages by sensor. -/
  averages : Bundle Id SumCount := .empty
  /-- The number of partials that arrived. -/
  partials : Nat := 0
  /-- The number of tasks that have ended. -/
  ended : Nat := 0

namespace Gathered

/-- What one element of a task adds. -/
def add (gathered : Gathered) : Element (Id × SumCount) → Gathered
  | .record (sensor, partialAverage) _ =>
      { gathered with
        partials := gathered.partials + 1
        averages :=
          (gathered.averages.merge (ε := Empty) sensor fun current =>
            .ok ((current.getD .zero).merge partialAverage)).1 }
  | .watermark _ => gathered
  | .finished => { gathered with ended := gathered.ended + 1 }

/-- Gathers elements until so many tasks have ended. -/
def untilEnded (tasks : Nat) (gathered : Gathered) : List (Element (Id × SumCount)) → Gathered
  | [] => gathered
  | element :: rest =>
      if gathered.ended < tasks then untilEnded tasks (gathered.add element) rest else gathered

/-- The number of samples in all averages. -/
def samples (gathered : Gathered) : Nat :=
  (gathered.averages.entries.map fun entry => entry.2.count).foldr (· + ·) 0

end Gathered

/-- The outcome of a job. -/
structure Report where
  /-- The partial averages by sensor, in the order of the sensors. -/
  averages : List (Id × SumCount)
  /-- The number of partials. -/
  partials : Nat
  /-- The number of samples. -/
  samples : Nat
  /-- The number of lines. -/
  lines : Nat
  /-- The number of tasks. -/
  tasks : Nat

namespace Report

/-- The report of what was gathered from so many tasks for so many lines. -/
def ofGathered (gathered : Gathered) (lines tasks : Nat) : Report where
  averages := gathered.averages.entries.mergeSort fun first second => first.1 ≤ second.1
  partials := gathered.partials
  samples := gathered.samples
  lines := lines
  tasks := tasks

/-- The line about one sensor, if it has an average. -/
def sensorLine? (sensor : Id) (partialAverage : SumCount) : Option String :=
  partialAverage.average?.map fun average =>
    s!"sensor {sensor}: average {Text.Decimal.fixed 3 average} over {partialAverage.count} samples"

/-- The lines about the sensors. -/
def sensorLines (report : Report) : List String :=
  report.averages.filterMap fun (sensor, partialAverage) => sensorLine? sensor partialAverage

/-- The line about the whole job, up to the number of its tasks. -/
def summary (report : Report) : String :=
  s!"{report.lines} line(s), {report.samples} sample(s) pre-aggregated into " ++
    s!"{report.partials} partial(s) by {report.tasks}"

/-- All lines of the report, without the time that the job took. -/
def text (report : Report) : List String :=
  report.sensorLines ++ [report.summary]

end Report
end Sensor
end PreAggregation
