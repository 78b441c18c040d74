/-!
# Subtasks

The parallel instances of one operator.
-/

namespace PreAggregation

/-- What an operator instance is told about itself. -/
structure Subtask where
  /-- The name of the operator. -/
  operator : String
  /-- The index of the instance, from zero. -/
  index : Nat
  /-- The number of instances. -/
  parallelism : Nat
  deriving DecidableEq, Repr

/-- The name of the operator with the number of the instance, counted from one. -/
def Subtask.label (subtask : Subtask) : String :=
  s!"{subtask.operator} ({subtask.index + 1}/{subtask.parallelism})"

end PreAggregation
