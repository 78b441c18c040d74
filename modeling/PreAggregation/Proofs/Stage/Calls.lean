import PreAggregation.Stage.Session

/-!
# Calls of an open stage

An open stage is driven by calls, and its threshold may change between any two of
them.  A change that comes while a batch is handled lies between two records, so it
is the same as two batches with the change in between.

The lemmas say once what each call can do; later proofs split along them and do not
open the definitions again.
-/

namespace PreAggregation
namespace Trigger

theorem exists_setMaxCount_eq
    (trigger : Trigger)
    (maxCount : Nat) :
    ∃ threshold, (trigger.setMaxCount maxCount).1 = { trigger with maxCount := threshold } := by
  unfold setMaxCount
  split
  · exact ⟨trigger.maxCount, rfl⟩
  · exact ⟨maxCount, rfl⟩

end Trigger

namespace Controller

theorem exists_applyPending_eq
    (controller : Controller)
    (trigger : Trigger) :
    ∃ threshold,
      (controller.applyPending trigger).2.1 = { trigger with maxCount := threshold } := by
  cases waiting : controller.tuning.pending with
  | none => exact ⟨trigger.maxCount, by simp only [applyPending, waiting]⟩
  | some pending =>
      by_cases positive : pending ≤ 0
      · exact ⟨trigger.maxCount, by simp only [applyPending, waiting, if_pos positive]⟩
      · obtain ⟨threshold, changed⟩ := trigger.exists_setMaxCount_eq pending.toNat
        refine ⟨threshold, ?_⟩
        rw [← changed]
        simp only [applyPending, waiting, if_neg positive]
        split <;> simp_all

theorem exists_adjust_eq
    (controller : Controller)
    (trigger : Trigger)
    (delta : Int) :
    ∃ threshold,
      (controller.adjust trigger delta).2.1 = { trigger with maxCount := threshold } := by
  unfold adjust
  split
  · exact exists_applyPending_eq _ trigger
  · exact ⟨trigger.maxCount, rfl⟩

theorem exists_receive_eq
    (controller : Controller)
    (trigger : Trigger)
    (payload : List UInt8) :
    ∃ threshold,
      (controller.receive trigger payload).2.1 = { trigger with maxCount := threshold } := by
  unfold receive
  split
  · exact ⟨trigger.maxCount, rfl⟩
  · exact exists_adjust_eq controller trigger _

end Controller

namespace Stage

variable {κ ν ι ο : Type}

/-! ## New stages -/

/-- A stage that was never opened. -/
def unopened
    (config : Config)
    (trigger : Trigger)
    (link : ControlLink)
    (now : Instant) : Stage κ ν where
  config := config
  trigger := trigger
  link := link
  bundle := .empty
  histogram := .ofWindow config.histogramWindow.toNat
  lastFlush := now
  controller := none
  listening := none
  subtask := none
  flushCount := 0
  ledger := .empty

theorem ofTrigger_eq_ok_iff
    {config : Config}
    {trigger : Trigger}
    {link : ControlLink}
    {now : Instant}
    {stage : Stage κ ν} :
    ofTrigger config trigger link now = .ok stage ↔
      config.validate = .ok () ∧ stage = unopened config trigger link now := by
  unfold ofTrigger
  cases config.validate with
  | error error => simp [bind, Except.bind]
  | ok value =>
      constructor
      · intro built
        cases built
        exact ⟨rfl, rfl⟩
      · rintro ⟨_, rfl⟩
        rfl

theorem bundle_start
    (earlier : Stage κ ν)
    (opened : Instant)
    (subtask : Subtask)
    (broker : MemoryBroker) :
    (earlier.start opened subtask broker).1.bundle = .empty := by
  simp only [start, startListening]
  split <;> rfl

/-! ## Changes of the threshold -/

/-- A change of the threshold from outside or by the controller, or a step of the
controller towards one. -/
inductive Change
  | setMaxCount (maxCount : Nat)
  | propose (delta : Int)
  | applyPending
  | adjust (delta : Int)
  | receive (payload : List UInt8)

/-- The stage after a change. -/
def Change.apply (stage : Stage κ ν) : Change → Stage κ ν
  | .setMaxCount maxCount => (stage.setMaxCount maxCount).1
  | .propose delta => (stage.propose delta).1
  | .applyPending => stage.applyPending.1
  | .adjust delta => (stage.adjust delta).1
  | .receive payload => stage.receive payload

/-- The stage with another threshold, another controller, and other adjustments
counted. -/
def retuned
    (stage : Stage κ ν)
    (maxCount : Nat)
    (controller : Option Controller)
    (adjustments : List OutcomeKind) : Stage κ ν :=
  { stage with
    trigger := { stage.trigger with maxCount }
    controller
    ledger := { stage.ledger with adjustments } }

/-- A change touches the threshold, the controller and the counters of adjustments. -/
theorem Change.exists_apply_eq
    (change : Change)
    (stage : Stage κ ν) :
    ∃ maxCount controller adjustments,
      change.apply stage = stage.retuned maxCount controller adjustments := by
  have unchanged : stage =
      stage.retuned stage.trigger.maxCount stage.controller stage.ledger.adjustments := rfl
  cases change with
  | setMaxCount maxCount =>
      obtain ⟨threshold, changed⟩ := stage.trigger.exists_setMaxCount_eq maxCount
      refine ⟨threshold, stage.controller, stage.ledger.adjustments, ?_⟩
      simp only [apply, Stage.setMaxCount, changed]
      rfl
  | propose delta =>
      cases present : stage.controller with
      | none => exact ⟨_, _, _, by simpa only [apply, Stage.propose, present] using unchanged⟩
      | some controller =>
          refine ⟨stage.trigger.maxCount,
            some (controller.propose stage.trigger.maxCount delta).1,
            stage.ledger.adjustments, ?_⟩
          simp only [apply, Stage.propose, present]
          rfl
  | applyPending =>
      cases present : stage.controller with
      | none => exact ⟨_, _, _, by simpa only [apply, Stage.applyPending, present] using unchanged⟩
      | some controller =>
          obtain ⟨threshold, changed⟩ := controller.exists_applyPending_eq stage.trigger
          refine ⟨threshold, some (controller.applyPending stage.trigger).1,
            stage.ledger.adjustments, ?_⟩
          simp only [apply, Stage.applyPending, present, changed]
          rfl
  | adjust delta =>
      cases present : stage.controller with
      | none => exact ⟨_, _, _, by simpa only [apply, Stage.adjust, present] using unchanged⟩
      | some controller =>
          obtain ⟨threshold, changed⟩ := controller.exists_adjust_eq stage.trigger delta
          refine ⟨threshold,
            some (controller.adjust stage.trigger delta).1,
            (stage.ledger.recordAdjustment
              (controller.adjust stage.trigger delta).2.2.kind).adjustments, ?_⟩
          simp only [apply, Stage.adjust, present, changed]
          rfl
  | receive payload =>
      cases present : stage.controller with
      | none => exact ⟨_, _, _, by simpa only [apply, Stage.receive, present] using unchanged⟩
      | some controller =>
          obtain ⟨threshold, changed⟩ := controller.exists_receive_eq stage.trigger payload
          refine ⟨threshold,
            some (controller.receive stage.trigger payload).1,
            (stage.ledger.recordReceived
              (controller.receive stage.trigger payload).2.2).adjustments, ?_⟩
          simp only [apply, Stage.receive, present, changed]
          rcases (controller.receive stage.trigger payload).2.2 with error | outcome
          · rfl
          · rfl

@[simp] theorem Change.bundle_apply
    (change : Change)
    (stage : Stage κ ν) :
    (change.apply stage).bundle = stage.bundle := by
  obtain ⟨maxCount, controller, adjustments, changed⟩ := change.exists_apply_eq stage
  rw [changed]
  rfl

/-- What can be asked of an open stage. -/
inductive Call (ι : Type)
  | batch (records : List ι)
  | flush
  /-- The bundle is emitted because its time has come. -/
  | timeTrigger
  | tick
  /-- There are no more records. -/
  | finish
  | change (change : Change)

/-- The records that arrive with a call. -/
def Call.records : Call ι → List ι
  | .batch records => records
  | .flush | .timeTrigger | .tick | .finish | .change _ => []

/-! ## Flushes -/

/-- A flush finds no bundle, or emits all of it, or keeps all of it. -/
theorem flush_cases
    (aggregation : Aggregation κ ν ι ο)
    (now : Instant)
    (stage : Stage κ ν) :
    (stage.bundle.entries = [] ∧
      flush aggregation now stage = { state := stage.flushed now 0 }) ∨
    (stage.bundle.entries ≠ [] ∧
      (aggregation.collect stage.bundle).result = .ok () ∧
      flush aggregation now stage =
        { state := stage.flushed now (aggregation.collect stage.bundle).outputs.length
          emitted := (aggregation.collect stage.bundle).outputs }) ∨
    (stage.bundle.entries ≠ [] ∧
      ∃ error, (aggregation.collect stage.bundle).result = .error error ∧
        flush aggregation now stage =
          { state := stage
            result := .error (error.within (.stage (.combine .collect))) }) := by
  by_cases nothing : stage.bundle.entries = []
  · refine .inl ⟨nothing, ?_⟩
    simp [flush, Bundle.isEmpty, nothing]
  · have present : stage.bundle.isEmpty = false := by
      simpa [Bundle.isEmpty] using nothing
    cases collected : (aggregation.collect stage.bundle).result with
    | error error =>
        refine .inr (.inr ⟨nothing, error, rfl, ?_⟩)
        simp [flush, present, collected]
    | ok value =>
        refine .inr (.inl ⟨nothing, rfl, ?_⟩)
        simp [flush, present, collected]

theorem entries_flush_of_ok
    {aggregation : Aggregation κ ν ι ο}
    {now : Instant}
    {stage : Stage κ ν}
    (succeeds : (flush aggregation now stage).result = .ok ()) :
    (flush aggregation now stage).state.bundle.entries = [] := by
  rcases flush_cases aggregation now stage with
    ⟨_, flushed⟩ | ⟨_, _, flushed⟩ | ⟨_, error, _, flushed⟩
  · rw [flushed]
    rfl
  · rw [flushed]
    rfl
  · rw [flushed] at succeeds
    exact absurd succeeds (by simp)

/-- Whether the time threshold has passed since the last flush. -/
def isDue
    (stage : Stage κ ν)
    (now : Instant) : Bool :=
  stage.trigger.maxTime.any fun maxTime => maxTime ≤ now - stage.lastFlush

/-- A tick does nothing, or is the time of the bundle. -/
theorem onProcessingTime_eq
    (aggregation : Aggregation κ ν ι ο)
    (now : Instant)
    (stage : Stage κ ν) :
    onProcessingTime aggregation now stage =
      if stage.isDue now then timeTrigger aggregation now stage else { state := stage } := by
  unfold onProcessingTime isDue
  cases stage.trigger.maxTime with
  | none => rfl
  | some maxTime => simp

theorem onEnd_cases
    (aggregation : Aggregation κ ν ι ο)
    (now : Instant)
    (stage : Stage κ ν) :
    (stage.bundle.entries = [] ∧ onEnd aggregation now stage = { state := stage }) ∨
    (stage.bundle.entries ≠ [] ∧ onEnd aggregation now stage = flush aggregation now stage) := by
  by_cases nothing : stage.bundle.entries = []
  · exact .inl ⟨nothing, by simp [onEnd, Bundle.isEmpty, nothing]⟩
  · exact .inr ⟨nothing, by simp [onEnd, Bundle.isEmpty, nothing]⟩

/-! ## Records -/

variable [DecidableEq κ]

/-- The stage with a partial put under a key for a record that was counted. -/
def withMerged
    (stage : Stage κ ν)
    (key : κ)
    (merged : ν) : Stage κ ν :=
  { stage with
    bundle := ⟨Bundle.assign key merged stage.bundle.entries⟩
    trigger := stage.trigger.onElement.1 }

/-- The stage without a partial under a key. -/
def withoutKey
    (stage : Stage κ ν)
    (key : κ) : Stage κ ν :=
  { stage with bundle := ⟨Bundle.remove key stage.bundle.entries⟩ }

/-- A record cannot be folded, or is folded and counted, and then a flush may follow. -/
theorem processElement_cases
    (aggregation : Aggregation κ ν ι ο)
    (now : Instant)
    (record : ι)
    (stage : Stage κ ν) :
    (∃ error,
      aggregation.addInput (stage.bundle.get? (aggregation.key record)) record = .error error ∧
      processElement aggregation now record stage =
        { state := stage.withoutKey (aggregation.key record)
          result := .error (error.within (.stage (.combine .addInput))) }) ∨
    (∃ merged,
      aggregation.addInput (stage.bundle.get? (aggregation.key record)) record = .ok merged ∧
      processElement aggregation now record stage =
        if stage.trigger.onElement.2 then
          flush aggregation now (stage.withMerged (aggregation.key record) merged)
        else { state := stage.withMerged (aggregation.key record) merged }) := by
  cases folded : aggregation.addInput (stage.bundle.get? (aggregation.key record)) record with
  | error error =>
      refine .inl ⟨error, rfl, ?_⟩
      simp only [processElement, Bundle.merge, folded, withoutKey]
  | ok merged =>
      refine .inr ⟨merged, rfl, ?_⟩
      simp only [processElement, Bundle.merge, folded, withMerged]

/-- What a call makes of a stage. -/
def perform
    (aggregation : Aggregation κ ν ι ο)
    (now : Instant)
    (stage : Stage κ ν) : Call ι → Step (Stage κ ν) ο
  | .batch records => processBatch aggregation now records stage
  | .flush => flush aggregation now stage
  | .timeTrigger => timeTrigger aggregation now stage
  | .tick => onProcessingTime aggregation now stage
  | .finish => onEnd aggregation now stage
  | .change change => { state := change.apply stage }

end Stage
end PreAggregation
