import Mathlib.Data.List.Forall2
import PreAggregation.Proofs.Bundle.Keys
import PreAggregation.Proofs.Stage.Journal

/-!
# Stages that mirror each other

Two stages may differ in when they flushed, in how often they did so before, in their
metrics, and in the number of their subscription.  If they are the same apart from this, and
if their functions resemble each other, they answer every request that does not look at the
clock in the same way, also where it fails, and stay the same.

How far the outputs of a flush agree is a matter of the functions.  Two functions that visit
the bundle in different orders may push the same outputs in different orders.
-/

namespace PreAggregation

/-- Two functions between whose memories there is a relation fold records in the same way, and
collect a bundle with the same result and with outputs that agree. -/
structure Combiner.Resembles {φ ψ κ ν ι ο : Type}
    (agree : List ο → List ο → Prop)
    (related : φ → ψ → Prop)
    (first : Combiner φ κ ν ι ο)
    (second : Combiner ψ κ ν ι ο) : Prop where
  /-- The keys are the same. -/
  key_eq : first.key = second.key
  /-- The folds are the same. -/
  addInput : ∀ {memory other}, related memory other → ∀ current record,
    related (first.addInput memory current record).1 (second.addInput other current record).1 ∧
      (first.addInput memory current record).2 = (second.addInput other current record).2
  /-- What is pushed onto two buffers agrees. -/
  collect : ∀ {memory other}, related memory other →
    ∀ (bundle : Bundle κ ν) output otherOutput, bundle.keys.Nodup →
    let one := first.collect memory bundle output
    let two := second.collect other bundle otherOutput
    related one.1 two.1 ∧ one.2.2 = two.2.2 ∧
      (one.2.2 = .ok () →
        agree (one.2.1.drop output.length) (two.2.1.drop otherOutput.length))

namespace Stage

variable {κ ν : Type}

/-- Two stages are the same apart from the clock, the metrics and the number of the
subscription, and the first has flushed more often by a surplus. -/
structure Mirrors (surplus : Nat) (first second : Stage κ ν) : Prop where
  /-- The settings. -/
  config_eq : first.config = second.config
  /-- The subtasks. -/
  subtask_eq : first.subtask = second.subtask
  /-- The bundles. -/
  bundle_eq : first.bundle = second.bundle
  /-- No key stands twice in them. -/
  nodup : second.bundle.keys.Nodup
  /-- The triggers, with their counts and thresholds. -/
  trigger_eq : first.trigger = second.trigger
  /-- The controllers, with what waits and with their baselines. -/
  controller_eq : first.controller = second.controller
  /-- The topics. -/
  topic?_eq : first.topic? = second.topic?
  /-- How many intervals are kept. -/
  window_eq : first.histogram.window = second.histogram.window
  /-- The numbers of intervals. -/
  length_samples_eq : first.histogram.samples.length = second.histogram.samples.length
  /-- The numbers of flushes. -/
  flushCount_eq : first.flushCount = surplus + second.flushCount

section Mirrors

variable {surplus : Nat} {first second : Stage κ ν}

theorem length_samples_update
    {histogram other : Histogram}
    (window_eq : histogram.window = other.window)
    (length_eq : histogram.samples.length = other.samples.length)
    (sample otherSample : Nat) :
    (histogram.update sample).samples.length = (other.update otherSample).samples.length := by
  unfold Histogram.update
  rw [window_eq, length_eq]
  split
  · simp [length_eq]
  · simp [length_eq]

theorem Mirrors.flushed
    (mirrors : Mirrors surplus first second)
    (now otherNow : Instant)
    (outputs otherOutputs : Nat) :
    Mirrors surplus (first.flushed now outputs) (second.flushed otherNow otherOutputs) :=
  { mirrors with
    bundle_eq := rfl
    nodup := List.nodup_nil
    trigger_eq := congrArg Trigger.reset mirrors.trigger_eq
    length_samples_eq := length_samples_update mirrors.window_eq mirrors.length_samples_eq _ _
    flushCount_eq := congrArg (· + 1) mirrors.flushCount_eq }

theorem Mirrors.reset (mirrors : Mirrors surplus first second) :
    Mirrors surplus { first with trigger := first.trigger.reset }
      { second with trigger := second.trigger.reset } :=
  { mirrors with trigger_eq := congrArg Trigger.reset mirrors.trigger_eq }

theorem Mirrors.change
    (mirrors : Mirrors surplus first second)
    (change : Change) :
    Mirrors surplus (change.apply first) (change.apply second) := by
  have same := mirrors.controller_eq
  cases change with
  | setMaxCount maxCount =>
      exact
        { mirrors with
          trigger_eq := congrArg (fun trigger => (trigger.setMaxCount maxCount).1)
            mirrors.trigger_eq }
  | propose delta =>
      rw [Change.apply, Change.apply, propose, propose, same, mirrors.trigger_eq]
      cases second.controller with
      | none => exact mirrors
      | some controller => exact { mirrors with controller_eq := rfl, trigger_eq := rfl }
  | applyPending =>
      rw [Change.apply, Change.apply, applyPending, applyPending, same, mirrors.trigger_eq]
      cases second.controller with
      | none => exact mirrors
      | some controller => exact { mirrors with controller_eq := rfl, trigger_eq := rfl }
  | adjust delta =>
      rw [Change.apply, Change.apply, adjust, adjust, same, mirrors.trigger_eq]
      cases second.controller with
      | none => exact mirrors
      | some controller => exact { mirrors with controller_eq := rfl, trigger_eq := rfl }
  | receive payload =>
      rw [Change.apply, Change.apply, receive, receive, same, mirrors.trigger_eq]
      cases second.controller with
      | none => exact mirrors
      | some controller => exact { mirrors with controller_eq := rfl, trigger_eq := rfl }

variable [DecidableEq κ]

theorem Mirrors.withMerged
    (mirrors : Mirrors surplus first second)
    (key : κ)
    (merged : ν) :
    Mirrors surplus (first.withMerged key merged) (second.withMerged key merged) :=
  { mirrors with
    bundle_eq := by rw [Stage.withMerged, Stage.withMerged, mirrors.bundle_eq]
    nodup := Bundle.nodup_map_fst_assign key merged mirrors.nodup
    trigger_eq := congrArg (fun trigger => trigger.onElement.1) mirrors.trigger_eq }

theorem Mirrors.withoutKey
    (mirrors : Mirrors surplus first second)
    (key : κ) :
    Mirrors surplus (first.withoutKey key) (second.withoutKey key) :=
  { mirrors with
    bundle_eq := by rw [Stage.withoutKey, Stage.withoutKey, mirrors.bundle_eq]
    nodup := Bundle.nodup_map_fst_remove key mirrors.nodup }

end Mirrors

end Stage

namespace Bench

open Entry

variable {φ ψ κ ν ι ο : Type}

/-- The memories of the functions are related, and the stages mirror each other. -/
structure Mirrors
    (related : φ → ψ → Prop)
    (surplus : Nat)
    (first : Bench φ κ ν ο)
    (second : Bench ψ κ ν ο) : Prop where
  /-- The memories. -/
  related : related first.memory second.memory
  /-- The stages. -/
  stages : Stage.Mirrors surplus first.stage second.stage

/-- Two calls come out the same and leave what mirrors each other.  By their journals the same
bundles were flushed, with outputs that agree. -/
structure Agrees
    (agree : List ο → List ο → Prop)
    (related : φ → ψ → Prop)
    (surplus : Nat)
    (attempt : Attempt (Bench φ κ ν ο))
    (told : List (Entry φ κ ν ι ο))
    (other : Attempt (Bench ψ κ ν ο))
    (otherTold : List (Entry ψ κ ν ι ο)) : Prop where
  /-- The results. -/
  result_eq : attempt.result = other.result
  /-- The stages. -/
  mirrors : Mirrors related surplus attempt.state other.state
  /-- The flushes. -/
  flushed : (flushes told).Forall₂ (fun one two => one.1 = two.1 ∧ agree one.2 two.2)
    (flushes otherTold)

variable {agree : List ο → List ο → Prop} {related : φ → ψ → Prop} {surplus : Nat}
variable {combiner : Combiner φ κ ν ι ο} {likeness : Combiner ψ κ ν ι ο}
variable {first : Bench φ κ ν ο} {second : Bench ψ κ ν ο}

/-! ## Calls -/

theorem agrees_flush
    (resembles : combiner.Resembles agree related likeness)
    (blank : agree [] [])
    (mirrors : Mirrors related surplus first second)
    (now otherNow : Instant) :
    Agrees agree related surplus (flush combiner now first) (flushEntries combiner now first)
      (flush likeness otherNow second) (flushEntries likeness otherNow second) := by
  have bundle_eq := mirrors.stages.bundle_eq
  obtain ⟨memories, result_eq, agreed⟩ := resembles.collect mirrors.related second.stage.bundle
    first.output second.output mirrors.stages.nodup
  rcases flush_told combiner now first with
    ⟨nothing, flushed, told⟩ | ⟨occupied, memory, outputs, collected, flushed, told⟩ |
    ⟨occupied, memory, pushed, cause, failed, flushed, told⟩
  · rcases flush_told likeness otherNow second with
      ⟨-, otherFlushed, otherTold⟩ | ⟨otherOccupied, -⟩ | ⟨otherOccupied, -⟩
    · rw [flushed, told, otherFlushed, otherTold]
      exact
        { result_eq := rfl
          mirrors := ⟨mirrors.related, mirrors.stages.flushed now otherNow 0 0⟩
          flushed := .cons ⟨bundle_eq, blank⟩ .nil }
    · rw [← bundle_eq, nothing] at otherOccupied
      cases otherOccupied
    · rw [← bundle_eq, nothing] at otherOccupied
      cases otherOccupied
  · rw [bundle_eq] at occupied collected
    rw [collected] at memories result_eq agreed
    rcases flush_told likeness otherNow second with
      ⟨otherNothing, -⟩ |
      ⟨-, otherMemory, otherOutputs, otherCollected, otherFlushed, otherTold⟩ |
      ⟨-, otherMemory, otherPushed, otherCause, otherFailed, -⟩
    · rw [occupied] at otherNothing
      cases otherNothing
    · rw [otherCollected] at memories agreed
      have pushes := agreed rfl
      rw [List.drop_left, List.drop_left] at pushes
      rw [flushed, told, otherFlushed, otherTold]
      exact
        { result_eq := rfl
          mirrors := ⟨memories, mirrors.stages.flushed now otherNow _ _⟩
          flushed := .cons ⟨bundle_eq, pushes⟩ .nil }
    · rw [otherFailed] at result_eq
      cases result_eq
  · rw [bundle_eq] at occupied failed
    rw [failed] at memories result_eq
    rcases flush_told likeness otherNow second with
      ⟨otherNothing, -⟩ | ⟨-, otherMemory, otherOutputs, otherCollected, -⟩ |
      ⟨-, otherMemory, otherPushed, otherCause, otherFailed, otherFlushed, otherTold⟩
    · rw [occupied] at otherNothing
      cases otherNothing
    · rw [otherCollected] at result_eq
      cases result_eq
    · rw [otherFailed] at memories result_eq
      obtain rfl := Except.error.inj result_eq
      rw [flushed, told, otherFlushed, otherTold]
      exact
        { result_eq := rfl
          mirrors := ⟨memories, mirrors.stages⟩
          flushed := .nil }

/-- A trigger that starts over anyway makes no difference. -/
theorem agrees_timeTrigger
    (resembles : combiner.Resembles agree related likeness)
    (blank : agree [] [])
    (mirrors : Mirrors related surplus first second)
    (now otherNow : Instant) :
    Agrees agree related surplus
      (timeTrigger combiner now first) (flushEntries combiner now first.restarted)
      (timeTrigger likeness otherNow second)
      (flushEntries likeness otherNow second.restarted) := by
  have restarted : Mirrors related surplus first.restarted second.restarted :=
    ⟨mirrors.related, mirrors.stages.reset⟩
  exact agrees_flush resembles blank restarted now otherNow

variable [DecidableEq κ]

theorem agrees_processElement
    (resembles : combiner.Resembles agree related likeness)
    (blank : agree [] [])
    (mirrors : Mirrors related surplus first second)
    {arrival other : Arrival ι}
    (same : arrival.record = other.record) :
    Agrees agree related surplus
      (processElement combiner arrival.now arrival.record first)
      (elementEntries combiner arrival first)
      (processElement likeness other.now other.record second)
      (elementEntries likeness other second) := by
  have bundle_eq := mirrors.stages.bundle_eq
  have key_eq : combiner.key arrival.record = likeness.key other.record := by
    rw [resembles.key_eq, same]
  obtain ⟨memories, folded_eq⟩ := resembles.addInput mirrors.related
    (second.stage.bundle.get? (likeness.key other.record)) other.record
  rw [elementEntries, elementEntries]
  rcases processElement_cases combiner arrival.now first arrival.record with
    ⟨memory, cause, failed, processed⟩ | ⟨memory, merged, folded, processed⟩
  · rw [failed, processed]
    rw [key_eq, bundle_eq, same] at failed
    rw [failed] at memories folded_eq
    rcases processElement_cases likeness other.now second other.record with
      ⟨otherMemory, otherCause, otherFailed, otherProcessed⟩ |
      ⟨otherMemory, otherMerged, otherFolded, -⟩
    · rw [otherFailed] at memories folded_eq
      obtain rfl := Except.error.inj folded_eq
      rw [otherFailed, otherProcessed]
      exact
        { result_eq := rfl
          mirrors := ⟨memories, key_eq ▸ mirrors.stages.withoutKey _⟩
          flushed := .nil }
    · rw [otherFolded] at folded_eq
      cases folded_eq
  · rw [folded, processed]
    rw [key_eq, bundle_eq, same] at folded
    rw [folded] at memories folded_eq
    rcases processElement_cases likeness other.now second other.record with
      ⟨otherMemory, otherCause, otherFailed, -⟩ |
      ⟨otherMemory, otherMerged, otherFolded, otherProcessed⟩
    · rw [otherFailed] at folded_eq
      cases folded_eq
    · rw [otherFolded] at memories folded_eq
      obtain rfl := Except.ok.inj folded_eq
      rw [otherFolded, otherProcessed]
      dsimp only
      have merges := mirrors.stages.withMerged (likeness.key other.record) merged
      rw [← key_eq] at merges ⊢
      rw [mirrors.stages.trigger_eq]
      by_cases fires : second.stage.trigger.onElement.2 = true
      · simp only [if_pos fires]
        have counted : Mirrors related surplus
            { first with
              memory, stage := first.stage.withMerged (combiner.key arrival.record) merged }
            { second with
              memory := otherMemory
              stage := second.stage.withMerged (combiner.key arrival.record) merged } :=
          ⟨memories, merges⟩
        exact { agrees_flush resembles blank counted arrival.now other.now with }
      · simp only [if_neg fires]
        exact
          { result_eq := rfl
            mirrors := ⟨memories, merges⟩
            flushed := .nil }

theorem agrees_processBatch
    (resembles : combiner.Resembles agree related likeness)
    (blank : agree [] [])
    (mirrors : Mirrors related surplus first second)
    {arrivals others : List (Arrival ι)}
    (same : arrivals.map Arrival.record = others.map Arrival.record) :
    Agrees agree related surplus
      (serve combiner first (.batch arrivals)) (batchEntries combiner arrivals first)
      (serve likeness second (.batch others)) (batchEntries likeness others second) := by
  induction arrivals generalizing others first second with
  | nil =>
      obtain rfl := List.map_eq_nil_iff.mp same.symm
      exact ⟨rfl, mirrors, .nil⟩
  | cons arrival rest inductionHypothesis =>
      obtain ⟨other, later, rfl, sameRecord, sameRest⟩ := List.map_eq_cons_iff.mp same.symm
      have head := agrees_processElement resembles blank mirrors sameRecord.symm
      have result_eq := head.result_eq
      rw [batchEntries, batchEntries, ← result_eq]
      cases handled : (processElement combiner arrival.now arrival.record first).result with
      | error cause =>
          rw [handled] at result_eq
          rw [serve_batch_cons_of_error handled, serve_batch_cons_of_error result_eq.symm]
          simp only [List.append_nil]
          exact head
      | ok done =>
          rw [handled] at result_eq
          rw [serve_batch_cons_of_ok handled, serve_batch_cons_of_ok result_eq.symm]
          have tail := inductionHypothesis head.mirrors sameRest.symm
          exact
            { result_eq := tail.result_eq
              mirrors := tail.mirrors
              flushed := by
                simp only [flushes, List.filterMap_append]
                exact List.rel_append head.flushed tail.flushed }

/-- Two requests are the same apart from the clock, and do not look at it. -/
inductive Request.SameButForClock : Request ι → Request ι → Prop
  | batch {arrivals others : List (Arrival ι)}
      (same : arrivals.map Arrival.record = others.map Arrival.record) :
      SameButForClock (.batch arrivals) (.batch others)
  | flush (now otherNow : Instant) : SameButForClock (.flush now) (.flush otherNow)
  | timeTrigger (now otherNow : Instant) :
      SameButForClock (.timeTrigger now) (.timeTrigger otherNow)
  | finish (now otherNow : Instant) : SameButForClock (.finish now) (.finish otherNow)
  | change (change : Stage.Change) : SameButForClock (.change change) (.change change)

/-- Any request that does not look at the clock is answered in the same way. -/
theorem agrees_serve
    (resembles : combiner.Resembles agree related likeness)
    (blank : agree [] [])
    (mirrors : Mirrors related surplus first second)
    {request other : Request ι}
    (same : request.SameButForClock other) :
    Agrees agree related surplus
      (serve combiner first request) (requestEntries combiner first request)
      (serve likeness second other) (requestEntries likeness second other) := by
  cases same with
  | batch same => exact agrees_processBatch resembles blank mirrors same
  | flush now otherNow => exact agrees_flush resembles blank mirrors now otherNow
  | timeTrigger now otherNow => exact agrees_timeTrigger resembles blank mirrors now otherNow
  | finish now otherNow =>
      rw [serve, serve, onEnd, onEnd, requestEntries, requestEntries, mirrors.stages.bundle_eq]
      split
      · exact ⟨rfl, mirrors, .nil⟩
      · exact agrees_flush resembles blank mirrors now otherNow
  | change change =>
      refine ⟨rfl, ⟨mirrors.related, mirrors.stages.change change⟩, ?_⟩
      rw [requestEntries, requestEntries]
      cases change.reported? first.stage <;> cases change.reported? second.stage <;> exact .nil

end Bench
end PreAggregation
