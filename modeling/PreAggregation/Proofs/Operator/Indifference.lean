import PreAggregation.Operator.Chain
import PreAggregation.Proofs.Operator.Matching

/-!
# Operators that are indifferent to batches and to the clock

For some operators it does not matter into which batches their records are cut, nor what
the clock says.  Their states are compared up to what the clock leaves in them.  Chains of
such operators are such operators.
-/

namespace PreAggregation
namespace Operator

open Step

variable {σ τ ι μ ο : Type}

/-- The operator that turns each record into any number of outputs, and may remember
something from one record to the next. -/
def remembering (f : ι → σ → List ο × σ) : Operator σ ι ο where
  process _ items state :=
    Step.each (fun item state => { state := (f item state).2, emitted := (f item state).1 })
      items state

/-- The operator opens and closes without failing, its batches can be cut anywhere, and
states that are alike stay alike whatever the clock says. -/
structure Indifferent
    (operator : Operator σ ι ο)
    (alike : σ → σ → Prop) : Prop where
  /-- Every state is like itself. -/
  refl : ∀ state, alike state state
  /-- The operator can be opened. -/
  result_start : ∀ now subtask state, (operator.start now subtask state).result = .ok ()
  /-- The subtask makes no difference. -/
  start_alike : ∀ {state other}, alike state other → ∀ now otherNow subtask otherSubtask,
    alike (operator.start now subtask state).state
      (operator.start otherNow otherSubtask other).state
  /-- A batch without records does nothing. -/
  process_nil : ∀ now state, operator.process now [] state = { state := state }
  /-- Two batches behind one another are one batch. -/
  process_append : ∀ now first second state,
    Matches Eq (operator.process now (first ++ second) state)
      ((operator.process now first state).andThen (operator.process now second))
  /-- The clock makes no difference to records. -/
  process_alike : ∀ {state other}, alike state other → ∀ now otherNow items,
    Matches alike (operator.process now items state) (operator.process otherNow items other)
  /-- The clock makes no difference to watermarks. -/
  timer_alike : ∀ {state other}, alike state other → ∀ now otherNow time,
    Matches alike (operator.timer now .eventTime time state)
      (operator.timer otherNow .eventTime time other)
  /-- The clock makes no difference at the end. -/
  finish_alike : ∀ {state other}, alike state other → ∀ now otherNow,
    Matches alike (operator.finish now state) (operator.finish otherNow other)
  /-- The operator can be closed. -/
  result_stop : ∀ now state, (operator.stop now state).result = .ok ()
  /-- Closing keeps what is alike. -/
  stop_alike : ∀ {state other}, alike state other → ∀ now otherNow,
    alike (operator.stop now state).state (operator.stop otherNow other).state

/-! ## Operators without a clock -/

theorem indifferent_remembering
    (f : ι → σ → List ο × σ) :
    (remembering f).Indifferent Eq where
  refl _ := rfl
  result_start _ _ _ := rfl
  start_alike same _ _ _ _ := same
  process_nil _ _ := rfl
  process_append _ first second state := Matches.of_eq (each_append _ first second state)
  process_alike same _ _ items := Matches.of_eq (congrArg (Step.each _ items) same)
  timer_alike same _ _ _ := Matches.of_eq (congrArg _ same)
  finish_alike same _ _ := Matches.of_eq (congrArg _ same)
  result_stop _ _ := rfl
  stop_alike same _ _ := same

/-- Without anything to remember the records can be turned into outputs all at once. -/
theorem flatMap_eq_remembering
    (f : ι → List ο) :
    flatMap f = remembering fun item (state : Unit) => (f item, state) := by
  have together (items : List ι) (state : Unit) :
      Step.each (fun item state => { state := state, emitted := f item }) items state =
        { state := state, emitted := items.flatMap f } := by
    induction items with
    | nil => rfl
    | cons item rest inductionHypothesis =>
        rw [each_cons, andThen_of_ok rfl, inductionHypothesis, List.flatMap_cons]
  unfold flatMap remembering
  congr 1
  funext now items state
  exact (together items state).symm

theorem indifferent_flatMap
    (f : ι → List ο) :
    (flatMap f).Indifferent Eq := by
  rw [flatMap_eq_remembering]
  exact indifferent_remembering _

/-! ## Chains -/

section Chain

variable {head : Operator σ ι μ} {tail : Operator τ μ ο}

/-- What the head emits is handled by the tail, even where it is nothing. -/
theorem handOver_eq_feeding
    (idle : ∀ now state, tail.process now [] state = { state := state })
    (now : Instant)
    (step : Step σ μ)
    (state : τ) :
    tail.handOver now step state = step.feeding state (tail.process now step.emitted) := by
  cases result : step.result with
  | error error => simp only [handOver, feeding, result]
  | ok value =>
      rw [feeding_of_ok result]
      by_cases nothing : step.emitted = []
      · simp only [handOver, result, nothing, List.isEmpty_nil, if_pos, idle]
        rfl
      · have present : step.emitted.isEmpty = false := by simpa using nothing
        simp only [handOver, result, present, Bool.false_eq_true, if_false]

/-- A step of the head whose outputs the tail handles before a hook of its own runs. -/
def releasing
    (tail : Operator τ μ ο)
    (now : Instant)
    (hook : τ → Step τ ο)
    (step : Step σ μ)
    (state : τ) : Step (σ × τ) ο :=
  step.feeding state fun state => (tail.process now step.emitted state).andThen hook

theorem handOver_andThen_eq_releasing
    (idle : ∀ now state, tail.process now [] state = { state := state })
    (now : Instant)
    (hook : τ → Step τ ο)
    (step : Step σ μ)
    (state : τ) :
    ((tail.handOver now step state).andThen fun both => (hook both.2).mapState (both.1, ·)) =
      tail.releasing now hook step state := by
  rw [handOver_eq_feeding idle, releasing]
  cases result : step.result with
  | error error => simp only [feeding, result, andThen]
  | ok value =>
      rw [feeding_of_ok result, feeding_of_ok result]
      exact (mapState_andThen _ hook fun _ => rfl).symm

variable {headAlike : σ → σ → Prop} {tailAlike : τ → τ → Prop}

theorem matches_releasing
    (tailIndifferent : tail.Indifferent tailAlike)
    {hook otherHook : τ → Step τ ο}
    (hooks : ∀ {state other}, tailAlike state other →
      Matches tailAlike (hook state) (otherHook other))
    {step otherStep : Step σ μ}
    (matched : Matches headAlike step otherStep)
    {state other : τ}
    (alike : tailAlike state other)
    (now otherNow : Instant) :
    Matches (fun first second => headAlike first.1 second.1 ∧ tailAlike first.2 second.2)
      (tail.releasing now hook step state) (tail.releasing otherNow otherHook otherStep other) := by
  apply matches_feeding matched.succeeds_iff matched.alike
  intro succeeded
  rw [← matched.emitted_eq succeeded]
  have handled := tailIndifferent.process_alike alike now otherNow step.emitted
  exact handled.andThen fun succeeded => hooks (handled.alike succeeded)

theorem start_chain
    (headIndifferent : head.Indifferent headAlike)
    (tailIndifferent : tail.Indifferent tailAlike)
    (now : Instant)
    (subtask : Subtask)
    (state : σ × τ) :
    (head.chain tail).start now subtask state =
      { state := ((head.start now subtask state.1).state,
          (tail.start now subtask state.2).state) } := by
  simp only [chain, headIndifferent.result_start, tailIndifferent.result_start]

theorem process_chain
    (idle : ∀ now state, tail.process now [] state = { state := state })
    (now : Instant)
    (items : List ι) :
    (head.chain tail).process now items = fun state =>
      (head.process now items state.1).feeding state.2
        (tail.process now (head.process now items state.1).emitted) := by
  funext state
  exact handOver_eq_feeding idle now _ state.2

/-- A batch of a chain can be cut anywhere: the head is cut there, and the tail where the
outputs of the two parts meet. -/
theorem matches_process_chain_append
    (headIndifferent : head.Indifferent headAlike)
    (tailIndifferent : tail.Indifferent tailAlike)
    (now : Instant)
    (first second : List ι)
    (state : σ × τ) :
    Matches Eq ((head.chain tail).process now (first ++ second) state)
      (((head.chain tail).process now first state).andThen
        ((head.chain tail).process now second)) := by
  simp only [process_chain tailIndifferent.process_nil]
  have headSplits := headIndifferent.process_append now first second state.1
  have headCut : Matches (fun one other => one.1 = other.1 ∧ one.2 = other.2)
      ((head.process now (first ++ second) state.1).feeding state.2
        (tail.process now (head.process now (first ++ second) state.1).emitted))
      (((head.process now first state.1).andThen (head.process now second)).feeding state.2
        (tail.process now ((head.process now first state.1).andThen
          (head.process now second)).emitted)) := by
    apply matches_feeding headSplits.succeeds_iff headSplits.alike
    intro succeeded
    rw [headSplits.emitted_eq succeeded]
    exact Matches.refl (fun _ => rfl) _
  apply (headCut.mono fun same => Prod.ext same.1 same.2).of_eq_left
  apply matches_feeding_andThen fun state =>
    tail.process now (head.process now second state).emitted
  intro succeeded
  rw [andThen_of_ok succeeded]
  exact tailIndifferent.process_append now _ _ state.2

theorem indifferent_chain
    (headIndifferent : head.Indifferent headAlike)
    (tailIndifferent : tail.Indifferent tailAlike) :
    (head.chain tail).Indifferent fun first second =>
      headAlike first.1 second.1 ∧ tailAlike first.2 second.2 := by
  have idle := tailIndifferent.process_nil
  constructor
  case refl => exact fun state => ⟨headIndifferent.refl state.1, tailIndifferent.refl state.2⟩
  case result_start =>
    intro now subtask state
    rw [start_chain headIndifferent tailIndifferent]
  case start_alike =>
    intro state other alike now otherNow subtask otherSubtask
    rw [start_chain headIndifferent tailIndifferent, start_chain headIndifferent tailIndifferent]
    exact ⟨headIndifferent.start_alike alike.1 now otherNow subtask otherSubtask,
      tailIndifferent.start_alike alike.2 now otherNow subtask otherSubtask⟩
  case process_nil =>
    intro now state
    simp only [process_chain idle, headIndifferent.process_nil]
    rw [feeding_of_ok rfl, idle]
    rfl
  case process_append => exact matches_process_chain_append headIndifferent tailIndifferent
  case process_alike =>
    intro state other alike now otherNow items
    have matched := headIndifferent.process_alike alike.1 now otherNow items
    simp only [process_chain idle]
    apply matches_feeding matched.succeeds_iff matched.alike
    intro succeeded
    rw [← matched.emitted_eq succeeded]
    exact tailIndifferent.process_alike alike.2 now otherNow _
  case timer_alike =>
    intro state other alike now otherNow time
    simp only [chain, handOver_andThen_eq_releasing idle]
    exact matches_releasing tailIndifferent
      (fun alike => tailIndifferent.timer_alike alike now otherNow time)
      (headIndifferent.timer_alike alike.1 now otherNow time) alike.2 now otherNow
  case finish_alike =>
    intro state other alike now otherNow
    simp only [chain, handOver_andThen_eq_releasing idle]
    exact matches_releasing tailIndifferent
      (fun alike => tailIndifferent.finish_alike alike now otherNow)
      (headIndifferent.finish_alike alike.1 now otherNow) alike.2 now otherNow
  case result_stop =>
    intro now state
    simp only [chain, headIndifferent.result_stop, tailIndifferent.result_stop]
    rfl
  case stop_alike =>
    intro state other alike now otherNow
    exact ⟨headIndifferent.stop_alike alike.1 now otherNow,
      tailIndifferent.stop_alike alike.2 now otherNow⟩

end Chain

end Operator
end PreAggregation
