import PreAggregation.Config.Basic

/-!
# Triggers

A trigger counts the records since the last flush and tells when the next flush is
due.  Its threshold may change while it counts.
-/

namespace PreAggregation

/-- Decides after every record whether the bundle is flushed. -/
structure Trigger where
  /-- The number of records since the last flush. -/
  count : Nat
  /-- The count at which a flush is due. -/
  maxCount : Nat
  /-- The age in nanoseconds at which a flush is due, if there is one. -/
  maxTime : Option Nat
  /-- The strategy of the stage. -/
  strategy : Strategy
  deriving DecidableEq, Repr

namespace Trigger

/-- A trigger without a time threshold. -/
def ofCount (maxCount : Nat) (strategy : Strategy) : Except Error Trigger :=
  match Config.countFault? maxCount with
  | some fault => .error ⟨.stage (.configuration fault), []⟩
  | none => .ok ⟨0, maxCount, none, strategy⟩

/-- The trigger with a time threshold. -/
def withMaxTime (trigger : Trigger) (maxTime : Nat) : Trigger :=
  { trigger with maxTime := some maxTime }

/-- The trigger that a configuration describes. -/
def ofConfig (config : Config) : Except Error Trigger := do
  config.validate
  let trigger ← ofCount config.maxCount.toNat config.strategy
  return config.maxTime.elim trigger trigger.withMaxTime

/-- The trigger with nothing counted. -/
def reset (trigger : Trigger) : Trigger :=
  { trigger with count := 0 }

/-- Counts a record, and tells whether a flush is due.  A trigger that fires starts
over. -/
def onElement (trigger : Trigger) : Trigger × Bool :=
  if trigger.maxCount ≤ trigger.count + 1 then (trigger.reset, true)
  else ({ trigger with count := trigger.count + 1 }, false)

/-- Counts records one after another, and gives the numbers of those that fired. -/
def onElements (trigger : Trigger) (number : Nat) : Trigger × List Nat :=
  let (trigger, fired) := (List.range number).foldl
    (fun (trigger, fired) index =>
      let (trigger, fires) := trigger.onElement
      (trigger, if fires then (index + 1) :: fired else fired))
    (trigger, [])
  (trigger, fired.reverse)

/-- Changes the threshold, and tells whether it is another one now.  Zero is no
threshold. -/
def setMaxCount (trigger : Trigger) (maxCount : Nat) : Trigger × Bool :=
  if maxCount = 0 then (trigger, false)
  else ({ trigger with maxCount }, maxCount ≠ trigger.maxCount)

/-- Fires because the time has come, whatever is counted. -/
def timeTrigger (trigger : Trigger) : Trigger × Bool :=
  (trigger.reset, true)

/-- One line about the rule by which the trigger fires. -/
def explain (trigger : Trigger) : String :=
  let time := trigger.maxTime.elim "" fun maxTime => s!"maxTime [{maxTime / 1000000}ms] "
  s!"maxCount [{trigger.maxCount}] {time}strategy [{trigger.strategy.name}]"

@[simp] theorem maxCount_reset (trigger : Trigger) : trigger.reset.maxCount = trigger.maxCount :=
  rfl

@[simp] theorem count_reset (trigger : Trigger) : trigger.reset.count = 0 := rfl

/-- Counting never changes the threshold. -/
@[simp] theorem maxCount_onElement (trigger : Trigger) :
    trigger.onElement.1.maxCount = trigger.maxCount := by
  unfold onElement
  split <;> rfl

/-- A change of the threshold keeps the count. -/
@[simp] theorem count_setMaxCount (trigger : Trigger) (maxCount : Nat) :
    (trigger.setMaxCount maxCount).1.count = trigger.count := by
  unfold setMaxCount
  split <;> rfl

end Trigger
end PreAggregation
