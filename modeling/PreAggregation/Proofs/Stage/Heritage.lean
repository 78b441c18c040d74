import PreAggregation.Proofs.Controller.Cycle
import PreAggregation.Proofs.Deployment.Wiring
import PreAggregation.Proofs.Stage.Persistence

/-!
# What a stage keeps for good

Whatever is asked of a stage, and whether it is opened or closed, its settings, its link
and the rule of its trigger stay, and its threshold stays positive.  Requests between opening
and closing keep the subscription, too.
-/

namespace PreAggregation
namespace Stage

variable {φ κ ν ι ο : Type}

/-! ## The threshold stays one -/

section Thresholds

theorem setMaxCount_pos
    {trigger : Trigger}
    (positive : 0 < trigger.maxCount)
    (maxCount : Nat) :
    0 < (trigger.setMaxCount maxCount).1.maxCount := by
  unfold Trigger.setMaxCount
  split
  · exact positive
  · exact Nat.pos_of_ne_zero ‹_›

theorem applyPending_pos
    {trigger : Trigger}
    (positive : 0 < trigger.maxCount)
    (controller : Controller) :
    0 < (controller.applyPending trigger).2.1.maxCount := by
  cases waiting : controller.tuning.pending with
  | none =>
      rw [Controller.applyPending_of_idle waiting]
      exact positive
  | some value =>
      obtain ⟨changed, outcome, applied, takes⟩ :=
        Controller.exists_applyPending_of_waiting waiting trigger
      rw [applied]
      exact takes.maxCount_pos positive

theorem adjust_pos
    {trigger : Trigger}
    (positive : 0 < trigger.maxCount)
    (controller : Controller)
    (delta : Int) :
    0 < (controller.adjust trigger delta).2.1.maxCount := by
  unfold Controller.adjust
  split
  · exact applyPending_pos positive _
  · exact positive

theorem receive_pos
    {trigger : Trigger}
    (positive : 0 < trigger.maxCount)
    (controller : Controller)
    (payload : List UInt8) :
    0 < (controller.receive trigger payload).2.1.maxCount := by
  unfold Controller.receive
  split
  · exact positive
  · exact adjust_pos positive controller _

/-- No change makes the threshold zero. -/
theorem Change.maxCount_apply_pos
    {stage : Stage κ ν}
    (positive : 0 < stage.trigger.maxCount)
    (change : Change) :
    0 < (change.apply stage).trigger.maxCount := by
  cases change with
  | setMaxCount maxCount => exact setMaxCount_pos positive maxCount
  | propose delta =>
      rw [apply, Stage.propose]
      split
      · exact positive
      · exact positive
  | applyPending =>
      rw [apply, Stage.applyPending]
      split
      · exact positive
      · exact applyPending_pos positive _
  | adjust delta =>
      rw [apply, Stage.adjust]
      split
      · exact positive
      · exact adjust_pos positive _ delta
  | receive payload =>
      rw [apply, Stage.receive]
      split
      · exact positive
      · exact receive_pos positive _ payload

end Thresholds

/-! ## What is kept -/

/-- A stage has come from another one, with all that stages keep. -/
structure Inherits (original later : Stage κ ν) : Prop where
  /-- The settings. -/
  config_eq : later.config = original.config
  /-- The link. -/
  link_eq : later.link = original.link
  /-- The time threshold. -/
  maxTime_eq : later.trigger.maxTime = original.trigger.maxTime
  /-- The strategy of the trigger. -/
  strategy_eq : later.trigger.strategy = original.trigger.strategy
  /-- A threshold is positive. -/
  maxCount_pos : 0 < original.trigger.maxCount → 0 < later.trigger.maxCount

theorem Inherits.refl (stage : Stage κ ν) : stage.Inherits stage :=
  ⟨rfl, rfl, rfl, rfl, id⟩

theorem Inherits.trans
    {original middle later : Stage κ ν}
    (first : original.Inherits middle)
    (second : middle.Inherits later) :
    original.Inherits later where
  config_eq := second.config_eq.trans first.config_eq
  link_eq := second.link_eq.trans first.link_eq
  maxTime_eq := second.maxTime_eq.trans first.maxTime_eq
  strategy_eq := second.strategy_eq.trans first.strategy_eq
  maxCount_pos positive := second.maxCount_pos (first.maxCount_pos positive)

/-! ## Requests -/

/-- A stage has come from another one in the same session. -/
structure Remains (original later : Stage κ ν) : Prop extends Inherits original later where
  /-- The subscription. -/
  listening_eq : later.listening = original.listening

theorem Remains.refl (stage : Stage κ ν) : stage.Remains stage :=
  ⟨Inherits.refl stage, rfl⟩

theorem Remains.trans
    {original middle later : Stage κ ν}
    (first : original.Remains middle)
    (second : middle.Remains later) :
    original.Remains later where
  toInherits := first.toInherits.trans second.toInherits
  listening_eq := second.listening_eq.trans first.listening_eq

theorem remains_change
    (change : Change)
    (stage : Stage κ ν) :
    stage.Remains (change.apply stage) := by
  obtain ⟨maxCount, controller, adjustments, changed⟩ := change.exists_apply_eq stage
  refine ⟨⟨?_, ?_, ?_, ?_, fun positive => change.maxCount_apply_pos positive⟩, ?_⟩
  all_goals rw [changed]; rfl

section Records

variable [DecidableEq κ]

theorem remains_withMerged
    (stage : Stage κ ν)
    (key : κ)
    (merged : ν) :
    stage.Remains (stage.withMerged key merged) := by
  have counted : stage.trigger.onElement.1.maxTime = stage.trigger.maxTime ∧
      stage.trigger.onElement.1.strategy = stage.trigger.strategy := by
    unfold Trigger.onElement
    split
    · exact ⟨rfl, rfl⟩
    · exact ⟨rfl, rfl⟩
  refine ⟨⟨rfl, rfl, counted.1, counted.2, ?_⟩, rfl⟩
  intro positive
  rw [withMerged, Trigger.maxCount_onElement]
  exact positive

theorem lasting_remains : Lasting (@Remains κ ν) where
  refl := Remains.refl
  trans := Remains.trans
  flushed _ _ _ := ⟨⟨rfl, rfl, rfl, rfl, id⟩, rfl⟩
  reset _ := ⟨⟨rfl, rfl, rfl, rfl, id⟩, rfl⟩
  withMerged := remains_withMerged
  withoutKey _ _ := ⟨⟨rfl, rfl, rfl, rfl, id⟩, rfl⟩

theorem remains_serve
    (combiner : Combiner φ κ ν ι ο)
    (bench : Bench φ κ ν ο)
    (request : Bench.Request ι) :
    bench.stage.Remains (Bench.serve combiner bench request).state.stage :=
  lasting_remains.serve combiner bench request fun change _ => remains_change change bench.stage

end Records

/-! ## Sessions -/

theorem inherits_reopened
    (stage : Stage κ ν)
    (now : Instant)
    (subtask : Subtask) :
    stage.Inherits (stage.reopened now subtask) :=
  ⟨rfl, rfl, rfl, rfl, id⟩

theorem inherits_start
    (stage : Stage κ ν)
    (now : Instant)
    (subtask : Subtask)
    (broker : MemoryBroker) :
    stage.Inherits (stage.start now subtask broker).1 := by
  rw [start_eq, startListening_eq]
  split
  · exact ⟨rfl, rfl, rfl, rfl, id⟩
  · exact stage.inherits_reopened now subtask

theorem inherits_stop
    (stage : Stage κ ν)
    (broker : MemoryBroker) :
    stage.Inherits (stage.stop broker).1 := by
  unfold stop
  simp only [fst_stopListening]
  exact ⟨rfl, rfl, rfl, rfl, id⟩

theorem inherits_listen
    (stage : Stage κ ν)
    (broker : MemoryBroker) :
    stage.Inherits (stage.listen broker).1 := by
  unfold listen
  split
  · exact Inherits.refl stage
  · split
    · rename_i payload next _
      exact (remains_change (.receive payload) stage).toInherits
    · exact Inherits.refl stage
    · exact Inherits.refl stage

end Stage
end PreAggregation
