import PreAggregation.Proofs.Stage.Journal

/-!
# What lasts through requests

To serve a request takes few parts: a record is merged or refused, the bundle is flushed, the
trigger starts over.  What each of these parts leaves as it is, every request leaves as it
is, unless it is a change of the threshold.
-/

namespace PreAggregation
namespace Stage

open Bench

variable {φ κ ν ι ο : Type} [DecidableEq κ]

/-- A relation between a stage and what becomes of it that holds behind every part of a
request. -/
structure Lasting (related : Stage κ ν → Stage κ ν → Prop) : Prop where
  refl : ∀ stage, related stage stage
  trans : ∀ {original middle later},
    related original middle → related middle later → related original later
  flushed : ∀ stage now outputs, related stage (stage.flushed now outputs)
  reset : ∀ stage, related stage { stage with trigger := stage.trigger.reset }
  withMerged : ∀ stage key merged, related stage (stage.withMerged key merged)
  withoutKey : ∀ stage key, related stage (stage.withoutKey key)

section Lasting

variable {related : Stage κ ν → Stage κ ν → Prop}

theorem Lasting.flush
    (lasting : Lasting related)
    (combiner : Combiner φ κ ν ι ο)
    (now : Instant)
    (bench : Bench φ κ ν ο) :
    related bench.stage (Bench.flush combiner now bench).state.stage := by
  rcases Bench.flush_cases combiner now bench with
    ⟨-, flushed⟩ | ⟨-, memory, output, -, flushed⟩ | ⟨-, memory, pushed, cause, -, flushed⟩
  · rw [flushed]
    exact lasting.flushed bench.stage now 0
  · rw [flushed]
    exact lasting.flushed bench.stage now _
  · rw [flushed]
    exact lasting.refl bench.stage

theorem Lasting.timeTrigger
    (lasting : Lasting related)
    (combiner : Combiner φ κ ν ι ο)
    (now : Instant)
    (bench : Bench φ κ ν ο) :
    related bench.stage (Bench.timeTrigger combiner now bench).state.stage :=
  lasting.trans (lasting.reset bench.stage) (lasting.flush combiner now bench.restarted)

theorem Lasting.processElement
    (lasting : Lasting related)
    (combiner : Combiner φ κ ν ι ο)
    (now : Instant)
    (record : ι)
    (bench : Bench φ κ ν ο) :
    related bench.stage (Bench.processElement combiner now record bench).state.stage := by
  rcases Bench.processElement_cases combiner now bench record with
    ⟨memory, cause, -, processed⟩ | ⟨memory, merged, -, processed⟩
  · rw [processed]
    exact lasting.withoutKey bench.stage _
  · have counted := lasting.withMerged bench.stage (combiner.key record) merged
    have flushed := lasting.flush combiner now
      { bench with memory, stage := bench.stage.withMerged (combiner.key record) merged }
    rw [processed]
    split
    · exact lasting.trans counted flushed
    · exact counted

theorem Lasting.processBatch
    (lasting : Lasting related)
    (combiner : Combiner φ κ ν ι ο)
    (records : List (Instant × ι))
    (bench : Bench φ κ ν ο) :
    related bench.stage (Bench.processBatch combiner records bench).state.stage := by
  induction records generalizing bench with
  | nil => exact lasting.refl bench.stage
  | cons item rest inductionHypothesis =>
      have first := lasting.processElement combiner item.1 item.2 bench
      rw [Bench.processBatch]
      split
      · exact first
      · exact lasting.trans first (inductionHypothesis _)

/-- What holds behind every part of a request holds behind the request. -/
theorem Lasting.serve
    (lasting : Lasting related)
    (combiner : Combiner φ κ ν ι ο)
    (bench : Bench φ κ ν ο)
    (request : Bench.Request ι)
    (changed : ∀ change, request = .change change →
      related bench.stage (change.apply bench.stage)) :
    related bench.stage (Bench.serve combiner bench request).state.stage := by
  cases request with
  | batch arrivals => exact lasting.processBatch combiner _ bench
  | flush now => exact lasting.flush combiner now bench
  | timeTrigger now => exact lasting.timeTrigger combiner now bench
  | tick asked now =>
      rw [Bench.serve, Bench.onProcessingTime_eq]
      split
      · exact lasting.timeTrigger combiner now bench
      · exact lasting.refl bench.stage
  | finish now =>
      rw [Bench.serve, Bench.onEnd]
      split
      · exact lasting.refl bench.stage
      · exact lasting.flush combiner now bench
  | change change => exact changed change rfl

end Lasting

end Stage
end PreAggregation
