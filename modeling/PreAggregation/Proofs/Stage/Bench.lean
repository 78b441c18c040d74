import PreAggregation.Proofs.Operator.Steps
import PreAggregation.Proofs.Stage.Calls
import PreAggregation.Stage.Bench

/-!
# Calls of a stage with a buffer

The lemmas say once what each call can do to the stage and to its buffer.  With a function
that remembers nothing, each call pushes onto the buffer what the stage emits.
-/

namespace PreAggregation
namespace Bench

variable {φ κ ν ι ο : Type}

/-! ## Flushes -/

section Calls

variable (combiner : Combiner φ κ ν ι ο) (asked now : Instant) (bench : Bench φ κ ν ο)

/-- A flush finds no bundle, or pushes the outputs of all of it, or leaves the buffer as it
was. -/
theorem flush_cases :
    (bench.stage.bundle.isEmpty = true ∧
      flush combiner now bench = { state := { bench with stage := bench.stage.flushed now 0 } }) ∨
    (bench.stage.bundle.isEmpty = false ∧
      ∃ memory output,
        combiner.collect bench.memory bench.stage.bundle bench.output = (memory, output, .ok ()) ∧
          flush combiner now bench =
            { state :=
                ⟨memory, bench.stage.flushed now (output.length - bench.output.length), output⟩ }) ∨
    (bench.stage.bundle.isEmpty = false ∧
      ∃ memory pushed cause,
        combiner.collect bench.memory bench.stage.bundle bench.output =
            (memory, pushed, .error cause) ∧
          flush combiner now bench =
            { state := { bench with memory }
              result := .error (cause.within (.stage (.combine .collect))) }) := by
  cases occupied : bench.stage.bundle.isEmpty with
  | true =>
      left
      rw [flush, if_pos occupied]
      exact ⟨rfl, rfl⟩
  | false =>
      right
      have present : ¬bench.stage.bundle.isEmpty = true := by simp [occupied]
      have pushes := combiner.collect_pushes bench.memory bench.stage.bundle bench.output
      obtain ⟨memory, pushed, result, collected⟩ : ∃ memory pushed result,
          combiner.collect bench.memory bench.stage.bundle bench.output =
            (memory, pushed, result) := ⟨_, _, _, rfl⟩
      rw [collected] at pushes
      rw [flush, if_neg present, collected]
      cases result with
      | ok done => exact .inl ⟨rfl, memory, pushed, rfl, rfl⟩
      | error cause =>
          -- What is cut off is what was pushed, because the buffer stands in front of it.
          have kept : pushed.take bench.output.length = bench.output :=
            (List.prefix_iff_eq_take.mp pushes).symm
          refine .inr ⟨rfl, memory, pushed, cause, rfl, ?_⟩
          dsimp only
          rw [kept]

/-- A tick does nothing, or is the time of the bundle. -/
theorem onProcessingTime_eq :
    onProcessingTime combiner asked now bench =
      if bench.stage.isDue asked then timeTrigger combiner now bench else { state := bench } := by
  unfold onProcessingTime Stage.isDue
  cases bench.stage.trigger.maxTime with
  | none => rfl
  | some maxTime => simp

end Calls

/-- What a step of a stage makes of a buffer. -/
def ofStep
    (output : List ο)
    (step : Step (Stage κ ν) ο) : Attempt (Bench Unit κ ν ο) :=
  ⟨⟨(), step.state, output ++ step.emitted⟩, step.result⟩

section Agreement

variable (aggregation : Aggregation κ ν ι ο) (now : Instant) (stage : Stage κ ν) (output : List ο)

theorem ofStep_state : ofStep output { state := stage } = { state := ⟨(), stage, output⟩ } := by
  rw [ofStep, List.append_nil]

/-- A flush pushes what the stage emits. -/
theorem flush_ofAggregation :
    flush (.ofAggregation aggregation) now ⟨(), stage, output⟩ =
      ofStep output (stage.flush aggregation now) := by
  unfold flush Stage.flush
  split
  · exact (ofStep_state _ output).symm
  · simp only [Combiner.ofAggregation]
    cases (aggregation.collect stage.bundle).result with
    | error cause => simp only [ofStep, List.take_left', List.append_nil]
    | ok done => simp only [ofStep, List.length_append, Nat.add_sub_cancel_left]

theorem timeTrigger_ofAggregation :
    timeTrigger (.ofAggregation aggregation) now ⟨(), stage, output⟩ =
      ofStep output (stage.timeTrigger aggregation now) :=
  flush_ofAggregation aggregation now _ output

theorem onProcessingTime_ofAggregation :
    onProcessingTime (.ofAggregation aggregation) now now ⟨(), stage, output⟩ =
      ofStep output (stage.onProcessingTime aggregation now) := by
  rw [onProcessingTime_eq, Stage.onProcessingTime_eq]
  split
  · exact timeTrigger_ofAggregation aggregation now stage output
  · exact (ofStep_state stage output).symm

theorem onEnd_ofAggregation :
    onEnd (.ofAggregation aggregation) now ⟨(), stage, output⟩ =
      ofStep output (stage.onEnd aggregation now) := by
  unfold onEnd Stage.onEnd
  split
  · exact (ofStep_state stage output).symm
  · exact flush_ofAggregation aggregation now stage output

end Agreement

/-! ## Records -/

variable [DecidableEq κ]

/-- A record cannot be folded, or is folded and counted, and then a flush may follow. -/
theorem processElement_cases
    (combiner : Combiner φ κ ν ι ο)
    (now : Instant)
    (bench : Bench φ κ ν ο)
    (record : ι) :
    (∃ memory cause,
      combiner.addInput bench.memory (bench.stage.bundle.get? (combiner.key record)) record =
          (memory, .error cause) ∧
        processElement combiner now record bench =
          { state := { bench with memory, stage := bench.stage.withoutKey (combiner.key record) }
            result := .error (cause.within (.stage (.combine .addInput))) }) ∨
    ∃ memory merged,
      combiner.addInput bench.memory (bench.stage.bundle.get? (combiner.key record)) record =
          (memory, .ok merged) ∧
        let next : Bench φ κ ν ο :=
          { bench with memory, stage := bench.stage.withMerged (combiner.key record) merged }
        processElement combiner now record bench =
          if bench.stage.trigger.onElement.2 then flush combiner now next
          else { state := next } := by
  obtain ⟨memory, result, folded⟩ : ∃ memory result,
      combiner.addInput bench.memory (bench.stage.bundle.get? (combiner.key record)) record =
        (memory, result) := ⟨_, _, rfl⟩
  cases result with
  | error cause =>
      refine .inl ⟨memory, cause, folded, ?_⟩
      simp only [processElement, folded, Bundle.merge, Stage.withoutKey]
  | ok merged =>
      refine .inr ⟨memory, merged, folded, ?_⟩
      simp only [processElement, folded, Bundle.merge, Stage.withMerged]

theorem processElement_ofAggregation
    (aggregation : Aggregation κ ν ι ο)
    (now : Instant)
    (stage : Stage κ ν)
    (output : List ο)
    (record : ι) :
    processElement (.ofAggregation aggregation) now record ⟨(), stage, output⟩ =
      ofStep output (stage.processElement aggregation now record) := by
  cases folded : aggregation.addInput (stage.bundle.get? (aggregation.key record)) record with
  | error cause =>
      simp only [processElement, Stage.processElement, Combiner.ofAggregation, Bundle.merge, folded,
        ofStep, List.append_nil]
  | ok merged =>
      simp only [processElement, Stage.processElement, Combiner.ofAggregation, Bundle.merge, folded]
      split
      · exact flush_ofAggregation aggregation now _ output
      · exact (ofStep_state _ output).symm

theorem processBatch_cons_of_ok
    {combiner : Combiner φ κ ν ι ο}
    {now : Instant}
    {record : ι}
    {bench next : Bench φ κ ν ο}
    (handled : processElement combiner now record bench = { state := next })
    (rest : List (Instant × ι)) :
    processBatch combiner ((now, record) :: rest) bench = processBatch combiner rest next := by
  rw [processBatch, handled]

theorem processBatch_cons_of_error
    {combiner : Combiner φ κ ν ι ο}
    {now : Instant}
    {record : ι}
    {bench next : Bench φ κ ν ο}
    {error : Error}
    (failed : processElement combiner now record bench = ⟨next, .error error⟩)
    (rest : List (Instant × ι)) :
    processBatch combiner ((now, record) :: rest) bench = ⟨next, .error error⟩ := by
  rw [processBatch, failed]

theorem processBatch_append_of_ok
    {combiner : Combiner φ κ ν ι ο}
    {records : List (Instant × ι)}
    {bench reached : Bench φ κ ν ο}
    (handled : processBatch combiner records bench = { state := reached })
    (others : List (Instant × ι)) :
    processBatch combiner (records ++ others) bench = processBatch combiner others reached := by
  induction records generalizing bench with
  | nil =>
      cases handled
      rfl
  | cons item rest inductionHypothesis =>
      obtain ⟨now, record⟩ := item
      obtain ⟨next, result, attempted⟩ : ∃ next result,
          processElement combiner now record bench = ⟨next, result⟩ := ⟨_, _, rfl⟩
      cases result with
      | error error =>
          rw [processBatch_cons_of_error attempted] at handled
          cases handled
      | ok done =>
          rw [processBatch_cons_of_ok attempted] at handled
          rw [List.cons_append, processBatch_cons_of_ok attempted]
          exact inductionHypothesis handled

/-- A batch fails at one of its records.  Those before are handled, and those behind are not. -/
theorem exists_processElement_of_error
    {combiner : Combiner φ κ ν ι ο}
    {records : List (Instant × ι)}
    {bench : Bench φ κ ν ο}
    {error : Error}
    (failed : (processBatch combiner records bench).result = .error error) :
    ∃ before now record after reached,
      records = before ++ (now, record) :: after ∧
        processBatch combiner before bench = { state := reached } ∧
        (processElement combiner now record reached).result = .error error ∧
        ∀ others, processBatch combiner (before ++ (now, record) :: others) bench =
          processElement combiner now record reached := by
  induction records generalizing bench with
  | nil => cases failed
  | cons item rest inductionHypothesis =>
      obtain ⟨now, record⟩ := item
      obtain ⟨next, result, attempted⟩ : ∃ next result,
          processElement combiner now record bench = ⟨next, result⟩ := ⟨_, _, rfl⟩
      cases result with
      | error other =>
          rw [processBatch_cons_of_error attempted] at failed
          refine ⟨[], now, record, rest, bench, rfl, rfl, ?_, fun others => ?_⟩
          · rw [attempted]
            exact failed
          · rw [List.nil_append, processBatch_cons_of_error attempted, attempted]
      | ok done =>
          rw [processBatch_cons_of_ok attempted] at failed
          obtain ⟨before, later, culprit, after, reached, split, handled, fails, stops⟩ :=
            inductionHypothesis failed
          refine ⟨(now, record) :: before, later, culprit, after, reached, ?_, ?_, fails, ?_⟩
          · rw [split, List.cons_append]
          · rw [processBatch_cons_of_ok attempted, handled]
          · intro others
            rw [List.cons_append, processBatch_cons_of_ok attempted]
            exact stops others

/-- A batch pushes what the stage emits. -/
theorem processBatch_ofAggregation
    (aggregation : Aggregation κ ν ι ο)
    (now : Instant)
    (stage : Stage κ ν)
    (output : List ο)
    (records : List ι) :
    processBatch (.ofAggregation aggregation) (records.map (now, ·)) ⟨(), stage, output⟩ =
      ofStep output (stage.processBatch aggregation now records) := by
  induction records generalizing stage output with
  | nil => exact (ofStep_state stage output).symm
  | cons record rest inductionHypothesis =>
      have first := processElement_ofAggregation aggregation now stage output record
      rw [List.map_cons, Stage.processBatch, Step.each_cons]
      cases handled : stage.processElement aggregation now record with
      | mk next emitted result =>
          rw [handled] at first
          cases result with
          | error error =>
              rw [processBatch_cons_of_error first, Step.andThen_of_error rfl]
              rfl
          | ok done =>
              rw [processBatch_cons_of_ok first, inductionHypothesis, Step.andThen_of_ok rfl]
              simp only [ofStep, Stage.processBatch, List.append_assoc]

/-- The operator with a place for what it remembers, which is nothing. -/
def rememberingNothing {σ : Type} (operator : Operator σ ι ο) : Operator (Unit × σ) ι ο where
  start now subtask state :=
    let attempt := operator.start now subtask state.2
    ⟨((), attempt.state), attempt.result⟩
  process now items state := (operator.process now items state.2).mapState ((), ·)
  timer now domain time state := (operator.timer now domain time state.2).mapState ((), ·)
  finish now state := (operator.finish now state.2).mapState ((), ·)
  stop now state :=
    let attempt := operator.stop now state.2
    ⟨((), attempt.state), attempt.result⟩

/-- With a function that remembers nothing a stage with a buffer is the operator that it is
without. -/
theorem operator_ofAggregation (aggregation : Aggregation κ ν ι ο) :
    operator (.ofAggregation aggregation) = rememberingNothing (Stage.operator aggregation) := by
  have hook_eq {call : Bench Unit κ ν ο → Attempt (Bench Unit κ ν ο)} {step : Step (Stage κ ν) ο}
      (state : Unit × Stage κ ν × MemoryBroker)
      (pushes : call ⟨(), state.2.1, []⟩ = ofStep [] step) :
      hook call state = step.mapState fun stage => ((), stage, state.2.2) := by
    obtain ⟨nothing, stage, broker⟩ := state
    simp only [hook, pushes, ofStep, List.nil_append, Step.mapState]
  apply Operator.ext
  case start => rfl
  case process =>
    funext now records state
    exact hook_eq state (processBatch_ofAggregation aggregation now state.2.1 [] records)
  case timer =>
    funext now domain time state
    cases domain with
    | eventTime => rfl
    | processingTime =>
        exact hook_eq state (onProcessingTime_ofAggregation aggregation now state.2.1 [])
  case finish =>
    funext now state
    exact hook_eq state (onEnd_ofAggregation aggregation now state.2.1 [])
  case stop => rfl

/-! ## A function that remembers something -/

/-- A function that adds up the numbers of each key, and numbers the bundles that it has
emitted. -/
def numberedSums : Combiner Nat Nat Nat (Nat × Nat) (Nat × Nat × Nat) where
  key := Prod.fst
  addInput emitted current record := (emitted, .ok (current.getD 0 + record.2))
  collect emitted bundle output :=
    (emitted + 1, output ++ bundle.entries.map fun entry => (emitted, entry), .ok ())
  collect_pushes _ _ output := List.prefix_append output _

end Bench
end PreAggregation
