import PreAggregation.Proofs.Operator.Indifference
import PreAggregation.Proofs.Stage.Bench

/-!
# Stages are indifferent to batches and to the clock

Without ticks the clock leaves its mark only in the intervals between flushes.  What a
stage emits and when it flushes depends on what its function remembers, on the bundle and on
the trigger alone.  If what the function pushes does not depend on the buffer either, a batch
is its records one after another, each with a buffer of its own.
-/

namespace PreAggregation
namespace Stage

variable {κ ν : Type}

/-- Two stages with the same bundle and trigger that have flushed equally often. -/
structure Alike (first second : Stage κ ν) : Prop where
  /-- The bundles are the same. -/
  bundle_eq : first.bundle = second.bundle
  /-- The triggers are the same. -/
  trigger_eq : first.trigger = second.trigger
  /-- The numbers of flushes are the same. -/
  flushCount_eq : first.flushCount = second.flushCount

theorem Alike.refl (stage : Stage κ ν) : stage.Alike stage := ⟨rfl, rfl, rfl⟩

theorem Alike.flushed
    {first second : Stage κ ν}
    (alike : first.Alike second)
    (now otherNow : Instant)
    (outputs : Nat) :
    (first.flushed now outputs).Alike (second.flushed otherNow outputs) :=
  ⟨rfl, congrArg Trigger.reset alike.trigger_eq, congrArg (· + 1) alike.flushCount_eq⟩

theorem alike_start
    {first second : Stage κ ν}
    (alike : first.Alike second)
    (now otherNow : Instant)
    (subtask otherSubtask : Subtask)
    (broker otherBroker : MemoryBroker) :
    (first.start now subtask broker).1.Alike
      (second.start otherNow otherSubtask otherBroker).1 := by
  have opened (stage : Stage κ ν) (now : Instant) (subtask : Subtask) (broker : MemoryBroker) :
      (stage.start now subtask broker).1.trigger = stage.trigger.reset ∧
        (stage.start now subtask broker).1.flushCount = stage.flushCount := by
    simp only [start, stopListening, startListening]
    split <;> split <;> exact ⟨rfl, rfl⟩
  refine ⟨?_, ?_, ?_⟩
  · rw [bundle_start, bundle_start]
  · rw [(opened first _ _ _).1, (opened second _ _ _).1, alike.trigger_eq]
  · rw [(opened first _ _ _).2, (opened second _ _ _).2, alike.flushCount_eq]

theorem alike_stop
    {first second : Stage κ ν}
    (alike : first.Alike second)
    (broker otherBroker : MemoryBroker) :
    (first.stop broker).1.Alike (second.stop otherBroker).1 := by
  have closed (stage : Stage κ ν) (broker : MemoryBroker) :
      (stage.stop broker).1.trigger = stage.trigger ∧
        (stage.stop broker).1.flushCount = stage.flushCount := by
    simp only [stop, stopListening]
    split <;> exact ⟨rfl, rfl⟩
  refine ⟨rfl, ?_, ?_⟩
  · rw [(closed first broker).1, (closed second otherBroker).1, alike.trigger_eq]
  · rw [(closed first broker).2, (closed second otherBroker).2, alike.flushCount_eq]

end Stage

namespace Bench

open Step

variable {φ κ ν ι ο : Type} {combiner : Combiner φ κ ν ι ο}

/-! ## Calls push behind what is there -/

/-- What an attempt leaves, with some outputs in front of its buffer. -/
def behind
    (front : List ο)
    (attempt : Attempt (Bench φ κ ν ο)) : Attempt (Bench φ κ ν ο) :=
  { attempt with state := { attempt.state with output := front ++ attempt.state.output } }

/-- What a call does does not depend on what is in the buffer, and it pushes behind that. -/
def Frames (call : Bench φ κ ν ο → Attempt (Bench φ κ ν ο)) : Prop :=
  ∀ front bench, call { bench with output := front ++ bench.output } = behind front (call bench)

theorem appends_visiting
    (appends : combiner.Appends)
    (visits : Nat → Bundle.Visit κ ν) :
    (combiner.visiting visits).Appends := by
  intro memory bundle output
  have pushed := appends memory.1 (bundle.visited (visits memory.2)) output
  simp only [Combiner.visiting, pushed]

theorem appends_ofAggregation (aggregation : Aggregation κ ν ι ο) :
    (Combiner.ofAggregation aggregation).Appends :=
  fun _ _ _ => rfl

theorem frames_flush
    (appends : combiner.Appends)
    (now : Instant) :
    Frames (flush combiner now) := by
  intro front bench
  unfold flush
  dsimp only
  split
  · rfl
  · rw [appends bench.memory _ (front ++ bench.output), appends bench.memory _ bench.output]
    cases collected : combiner.collect bench.memory bench.stage.bundle [] with
    | mk memory pushing =>
        obtain ⟨pushed, result⟩ := pushing
        cases result with
        | error cause => simp only [behind, List.take_left]
        | ok done =>
            simp only [behind, List.append_assoc, List.length_append, Nat.add_sub_cancel_left,
              ← Nat.add_assoc]

variable [DecidableEq κ]

theorem frames_processElement
    (appends : combiner.Appends)
    (now : Instant)
    (record : ι) :
    Frames (processElement combiner now record) := by
  intro front bench
  obtain ⟨memory, result, folded⟩ : ∃ memory result,
      combiner.addInput bench.memory (bench.stage.bundle.get? (combiner.key record)) record =
        (memory, result) := ⟨_, _, rfl⟩
  cases result with
  | error cause =>
      simp only [processElement, folded, Bundle.merge]
      rfl
  | ok merged =>
      let next : Bench φ κ ν ο :=
        { bench with memory, stage := bench.stage.withMerged (combiner.key record) merged }
      simp only [processElement, folded, Bundle.merge]
      split
      · exact frames_flush appends now front next
      · rfl

theorem frames_processBatch
    (appends : combiner.Appends)
    (records : List (Instant × ι)) :
    Frames (processBatch combiner records) := by
  intro front bench
  induction records generalizing bench with
  | nil => rfl
  | cons item rest inductionHypothesis =>
      have first := frames_processElement appends item.1 item.2 front bench
      rw [processBatch, processBatch, first]
      cases handled : (processElement combiner item.1 item.2 bench).result with
      | error cause => simp only [behind, handled]
      | ok done =>
          simp only [behind, handled]
          exact inductionHypothesis _

/-- With a buffer for each record a batch is its records one after another. -/
theorem hook_processBatch
    (appends : combiner.Appends)
    (now : Instant)
    (records : List ι)
    (state : φ × Stage κ ν × MemoryBroker) :
    hook (processBatch combiner (records.map (now, ·))) state =
      Step.each (fun record => hook (processElement combiner now record)) records state := by
  induction records generalizing state with
  | nil => rfl
  | cons record rest inductionHypothesis =>
      let first := processElement combiner now record ⟨state.1, state.2.1, []⟩
      rw [each_cons, List.map_cons]
      cases handled : first.result with
      | error cause =>
          have failed : processBatch combiner ((now, record) :: rest.map (now, ·))
              ⟨state.1, state.2.1, []⟩ = first := by
            rw [processBatch_cons_of_error (congrArg (Attempt.mk _) handled)]
            exact congrArg (Attempt.mk _) handled.symm
          have broken : (hook (processElement combiner now record) state).result = .error cause :=
            handled
          rw [andThen_of_error broken, hook, failed]
          rfl
      | ok done =>
          have succeeded : processBatch combiner ((now, record) :: rest.map (now, ·))
              ⟨state.1, state.2.1, []⟩ =
                processBatch combiner (rest.map (now, ·)) first.state :=
            processBatch_cons_of_ok (congrArg (Attempt.mk _) handled) _
          -- The others find the outputs of the first in the buffer, and push behind them.
          have framed := frames_processBatch appends (rest.map (now, ·)) first.state.output
            ⟨first.state.memory, first.state.stage, []⟩
          rw [List.append_nil] at framed
          have others := inductionHypothesis (first.state.memory, first.state.stage, state.2.2)
          have made : hook (processElement combiner now record) state =
              ⟨(first.state.memory, first.state.stage, state.2.2), first.state.output,
                .ok ()⟩ := congrArg (Step.mk _ _) handled
          rw [made, andThen_of_ok rfl, ← others]
          simp only [hook]
          rw [succeeded, framed]
          rfl

variable {first second : φ × Stage κ ν × MemoryBroker}

/-! ## Stages that are alike -/

/-- Two functions that remember the same, and stages that are alike. -/
structure Alike (first second : φ × Stage κ ν × MemoryBroker) : Prop where
  /-- The functions remember the same. -/
  memory_eq : first.1 = second.1
  /-- The stages are alike. -/
  stages : first.2.1.Alike second.2.1

omit [DecidableEq κ] in
theorem matches_flush
    (alike : Alike first second)
    (now otherNow : Instant) :
    Matches Alike (hook (flush combiner now) first) (hook (flush combiner otherNow) second) := by
  obtain ⟨memory, stage, broker⟩ := first
  obtain ⟨other, otherStage, otherBroker⟩ := second
  obtain ⟨memory_eq, stages⟩ := alike
  obtain rfl : memory = other := memory_eq
  have bundle_eq : stage.bundle = otherStage.bundle := stages.bundle_eq
  unfold hook flush
  simp only [bundle_eq]
  cases otherStage.bundle.isEmpty with
  | true =>
      simp only [if_true]
      exact ⟨Iff.rfl, fun _ => rfl, fun _ => ⟨rfl, stages.flushed now otherNow 0⟩⟩
  | false =>
      obtain ⟨next, pushed, result, collected⟩ : ∃ next pushed result,
          combiner.collect memory otherStage.bundle [] = (next, pushed, result) :=
        ⟨_, _, _, rfl⟩
      simp only [collected, Bool.false_eq_true, if_false]
      cases result with
      | error cause => exact Matches.of_errors (by simp) (by simp)
      | ok done =>
          exact ⟨Iff.rfl, fun _ => rfl, fun _ => ⟨rfl, stages.flushed now otherNow _⟩⟩

omit [DecidableEq κ] in
theorem matches_onEnd
    (alike : Alike first second)
    (now otherNow : Instant) :
    Matches Alike (hook (onEnd combiner now) first) (hook (onEnd combiner otherNow) second) := by
  by_cases nothing : second.2.1.bundle.isEmpty = true
  · simp only [hook, onEnd, alike.stages.bundle_eq, if_pos nothing]
    exact ⟨Iff.rfl, fun _ => rfl, fun _ => alike⟩
  · have flushes : Matches Alike (hook (flush combiner now) first)
        (hook (flush combiner otherNow) second) := matches_flush alike now otherNow
    simp only [hook, onEnd, alike.stages.bundle_eq, if_neg nothing]
    exact flushes

theorem matches_processElement
    (now otherNow : Instant)
    (record : ι)
    (alike : Alike first second) :
    Matches Alike (hook (processElement combiner now record) first)
      (hook (processElement combiner otherNow record) second) := by
  obtain ⟨memory, stage, broker⟩ := first
  obtain ⟨other, otherStage, otherBroker⟩ := second
  obtain ⟨memory_eq, stages⟩ := alike
  obtain rfl : memory = other := memory_eq
  obtain ⟨next, result, folded⟩ : ∃ next result,
      combiner.addInput memory (otherStage.bundle.get? (combiner.key record)) record =
        (next, result) := ⟨_, _, rfl⟩
  have bundle_eq : stage.bundle = otherStage.bundle := stages.bundle_eq
  have trigger_eq : stage.trigger = otherStage.trigger := stages.trigger_eq
  unfold hook processElement
  simp only [bundle_eq, trigger_eq, folded]
  cases result with
  | error cause => exact Matches.of_errors (by simp [Bundle.merge]) (by simp [Bundle.merge])
  | ok merged =>
      simp only [Bundle.merge]
      have counted (bundle : Bundle κ ν) (trigger : Trigger) :
          Alike (next, { stage with bundle, trigger }, broker)
            (next, { otherStage with bundle, trigger }, otherBroker) :=
        ⟨rfl, rfl, rfl, stages.flushCount_eq⟩
      by_cases fires : otherStage.trigger.onElement.2 = true
      · simp only [if_pos fires]
        exact matches_flush (counted _ _) now otherNow
      · simp only [if_neg fires]
        exact ⟨Iff.rfl, fun _ => rfl, fun _ => counted _ _⟩

theorem indifferent_operator (appends : combiner.Appends) :
    (operator combiner).Indifferent Alike := by
  constructor
  case refl => exact fun state => ⟨rfl, Stage.Alike.refl state.2.1⟩
  case result_start => exact fun _ _ _ => rfl
  case start_alike =>
    intro state other alike now otherNow subtask otherSubtask
    exact ⟨alike.memory_eq,
      Stage.alike_start alike.stages now otherNow subtask otherSubtask state.2.2 other.2.2⟩
  case process_nil => exact fun _ _ => rfl
  case process_append =>
    intro now first second state
    apply Matches.of_eq
    simp only [operator, hook_processBatch appends, each_append]
    congr 1
    funext next
    exact (hook_processBatch appends now second next).symm
  case process_alike =>
    intro state other alike now otherNow items
    simp only [operator, hook_processBatch appends]
    induction items generalizing state other with
    | nil => exact ⟨Iff.rfl, fun _ => rfl, fun _ => alike⟩
    | cons record rest inductionHypothesis =>
        rw [each_cons, each_cons]
        have matched : Matches Alike (hook (processElement combiner now record) state)
            (hook (processElement combiner otherNow record) other) :=
          matches_processElement now otherNow record alike
        exact matched.andThen fun succeeded => inductionHypothesis (matched.alike succeeded)
  case timer_alike => exact fun alike now otherNow time => ⟨Iff.rfl, fun _ => rfl, fun _ => alike⟩
  case finish_alike => exact fun alike now otherNow => matches_onEnd alike now otherNow
  case result_stop => exact fun _ _ => rfl
  case stop_alike =>
    intro state other alike now otherNow
    exact ⟨alike.memory_eq, Stage.alike_stop alike.stages state.2.2 other.2.2⟩

end Bench
end PreAggregation
