import PreAggregation.Error

/-!
# Operators

An operator is driven through hooks.  Each hook takes the state of the operator and
leaves another one, together with what it emits, up to the place where it fails.
What was done before a failure stays done.

Every hook is given a reading of a clock that never goes back.
-/

namespace PreAggregation

/-- A reading of the clock in nanoseconds. -/
abbrev Instant := Nat

/-- What a timer measures. -/
inductive TimerDomain
  /-- The time of the records, driven by watermarks. -/
  | eventTime
  /-- The time of the clock, driven by ticks. -/
  | processingTime
  deriving DecidableEq, Repr

/-- What a hook that emits nothing leaves behind. -/
structure Attempt (σ : Type) where
  /-- The state. -/
  state : σ
  /-- Whether the hook succeeded. -/
  result : Except Error Unit := .ok ()

/-- What a hook leaves behind. -/
structure Step (σ ο : Type) where
  /-- The state. -/
  state : σ
  /-- What the hook emitted. -/
  emitted : List ο := []
  /-- Whether the hook succeeded. -/
  result : Except Error Unit := .ok ()

namespace Step

variable {σ τ ι ο : Type}

/-- The step with its state seen as part of another one. -/
def mapState (step : Step σ ο) (embed : σ → τ) : Step τ ο :=
  ⟨embed step.state, step.emitted, step.result⟩

/-- One step behind another.  The second is not made if the first failed. -/
def andThen (step : Step σ ο) (next : σ → Step σ ο) : Step σ ο :=
  match step.result with
  | .error _ => step
  | .ok () =>
      let later := next step.state
      ⟨later.state, step.emitted ++ later.emitted, later.result⟩

/-- Makes a step for each item, behind the outputs of `emitted` in reverse. -/
def eachFrom (make : ι → σ → Step σ ο) (state : σ) (emitted : List ο) : List ι → Step σ ο
  | [] => ⟨state, emitted.reverse, .ok ()⟩
  | item :: rest =>
      let step := make item state
      let emitted := step.emitted.reverse ++ emitted
      match step.result with
      | .error error => ⟨step.state, emitted.reverse, .error error⟩
      | .ok () => eachFrom make step.state emitted rest

/-- Makes a step for each item, up to the first that fails. -/
def each (make : ι → σ → Step σ ο) (items : List ι) (state : σ) : Step σ ο :=
  eachFrom make state [] items

/-! ## Steps over items -/

theorem eachFrom_eq (make : ι → σ → Step σ ο) (state : σ) (emitted : List ο) (items : List ι) :
    eachFrom make state emitted items =
      let step := eachFrom make state [] items
      ⟨step.state, emitted.reverse ++ step.emitted, step.result⟩ := by
  induction items generalizing state emitted with
  | nil => simp [eachFrom]
  | cons item rest inductionHypothesis =>
      simp only [eachFrom]
      cases (make item state).result with
      | error error => simp
      | ok value =>
          simp only [List.append_nil]
          rw [inductionHypothesis, inductionHypothesis _ (make item state).emitted.reverse]
          simp

@[simp] theorem each_nil (make : ι → σ → Step σ ο) (state : σ) :
    each make [] state = { state := state } := rfl

/-- A nonempty batch is its first item and then the others. -/
@[simp] theorem each_cons (make : ι → σ → Step σ ο) (item : ι) (rest : List ι) (state : σ) :
    each make (item :: rest) state = (make item state).andThen (each make rest) := by
  simp only [each, eachFrom, andThen]
  split
  · rename_i error failed
    cases step : make item state
    simp_all
  · rw [eachFrom_eq]
    simp

end Step

/-- An operator with states `σ`, records of type `ι` and outputs of type `ο`. -/
@[ext] structure Operator (σ ι ο : Type) where
  /-- Called before the first record. -/
  start : Instant → Subtask → σ → Attempt σ := fun _ _ state => { state := state }
  /-- Handles some records. -/
  process : Instant → List ι → σ → Step σ ο
  /-- A time is reached. -/
  timer : Instant → TimerDomain → Int → σ → Step σ ο := fun _ _ _ state => { state := state }
  /-- There are no more records. -/
  finish : Instant → σ → Step σ ο := fun _ state => { state := state }
  /-- Called behind everything else. -/
  stop : Instant → σ → Attempt σ := fun _ state => { state := state }

namespace Operator

/-- The operator that turns each record into any number of outputs. -/
def flatMap {ι ο : Type} (f : ι → List ο) : Operator Unit ι ο where
  process _ items state := { state, emitted := items.flatMap f }

end Operator
end PreAggregation
