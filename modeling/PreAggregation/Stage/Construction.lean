import PreAggregation.Stage.Basic

/-!
# The construction of a stage

A stage has a histogram with room for all samples that it keeps.  Where there cannot be
room for so many, its construction breaks off without an error.
-/

namespace PreAggregation

/-- What stands in the way of a stage, or of a job that needs some. -/
inductive Obstacle
  /-- There is an error to tell of it. -/
  | refused (error : Error)
  /-- There cannot be room for a histogram, and what needs it breaks off. -/
  | noRoom
  deriving DecidableEq, Repr

namespace Stage

variable {κ ν : Type}

/-- Constructs a stage around a trigger. -/
def constructAround (config : Config) (trigger : Trigger) (link : ControlLink) (now : Instant) :
    Except Obstacle (Stage κ ν) := do
  let stage ← (ofTrigger config trigger link now).mapError Obstacle.refused
  let some histogram := Histogram.allocate? config.histogramWindow.toNat
    | throw Obstacle.noRoom
  return { stage with histogram }

/-- Constructs a stage with the trigger that its settings describe. -/
def construct (config : Config) (link : ControlLink) (now : Instant) :
    Except Obstacle (Stage κ ν) := do
  let trigger ← (Trigger.ofConfig config).mapError Obstacle.refused
  constructAround config trigger link now

end Stage
end PreAggregation
