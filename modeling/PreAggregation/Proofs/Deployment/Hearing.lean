import PreAggregation.Proofs.Controller.Tracking
import PreAggregation.Proofs.Deployment.Wiring

/-!
# What a stage hears

Between its opening and its closing a stage hears what is published on its topic, in
this order, and handles the front of it.  In a deployment every open stage goes through
its own hearing, whatever the other stages do meanwhile.
-/

namespace PreAggregation
namespace Deployment

/-- Whether an event opens or closes a stage. -/
def Event.switches (index : Nat) : Event → Bool
  | .start other _ _ | .stop other => other = index
  | .publish _ _ | .listen _ => false

/-- A stage is neither opened nor closed. -/
def Quiet
    (index : Nat)
    (events : List Event) : Prop :=
  ∀ event ∈ events, event.switches index = false

instance
    (index : Nat)
    (events : List Event) :
    Decidable (Quiet index events) :=
  inferInstanceAs (Decidable (∀ event ∈ events, event.switches index = false))

theorem quiet_concat_iff
    {index : Nat}
    {events : List Event}
    {event : Event} :
    Quiet index (events ++ [event]) ↔ Quiet index events ∧ event.switches index = false := by
  rw [Quiet, List.forall_mem_append, List.forall_mem_singleton, Quiet]

/-- Whether an event is published on a topic or handled by a stage. -/
def Event.concerns
    (topic : String)
    (index : Nat) : Event → Bool
  | .start _ _ _ | .stop _ => false
  | .publish other _ => other = topic
  | .listen other => other = index

/-- The payloads that are published on a topic. -/
def published
    (topic : String)
    (events : List Event) : List (List UInt8) :=
  events.filterMap fun
    | .publish other payload => if other = topic then some payload else none
    | .start _ _ _ | .stop _ | .listen _ => none

/-- What an open stage has heard. -/
structure Hearing where
  /-- The payloads that it handled, the oldest first. -/
  handled : List (List UInt8)
  /-- The payloads that wait for it, the oldest first. -/
  waiting : List (List UInt8)
  deriving DecidableEq

namespace Hearing

/-- Nothing was heard. -/
def nothing : Hearing :=
  ⟨[], []⟩

/-- The oldest payload that waits is handled. -/
def next (hearing : Hearing) : Hearing :=
  ⟨hearing.handled ++ hearing.waiting.head?.toList, hearing.waiting.tail⟩

/-- What an event makes of the hearing of a stage. -/
def step
    (topic : String)
    (index : Nat)
    (hearing : Hearing) : Event → Hearing
  | .start _ _ _ | .stop _ => hearing
  | .publish other payload =>
      if other = topic then { hearing with waiting := hearing.waiting ++ [payload] } else hearing
  | .listen other => if other = index then hearing.next else hearing

/-- What a stage has heard behind some events since it was opened. -/
def run
    (topic : String)
    (index : Nat)
    (events : List Event) : Hearing :=
  events.foldl (step topic index) nothing

theorem run_concat
    (topic : String)
    (index : Nat)
    (events : List Event)
    (event : Event) :
    run topic index (events ++ [event]) = (run topic index events).step topic index event := by
  rw [run, List.foldl_append]
  rfl

/-- Nothing that is published on the topic is lost, and nothing else is heard. -/
theorem handled_append_waiting
    (topic : String)
    (index : Nat)
    (events : List Event) :
    (run topic index events).handled ++ (run topic index events).waiting =
      published topic events := by
  induction events using List.reverseRecOn with
  | nil => rfl
  | append_singleton events event inductionHypothesis =>
      rw [run_concat, published, List.filterMap_append, ← published, ← inductionHypothesis]
      cases event with
      | start other now subtask => exact (List.append_nil _).symm
      | stop other => exact (List.append_nil _).symm
      | publish other payload =>
          by_cases same : other = topic
          · simp [step, same]
          · simp [step, same]
      | listen other =>
          by_cases same : other = index
          · cases waits : (run topic index events).waiting with
            | nil => simp [step, same, next, waits]
            | cons payload rest => simp [step, same, next, waits]
          · simp [step, same]

theorem run_filter_concerns
    (topic : String)
    (index : Nat)
    (events : List Event) :
    run topic index (events.filter (Event.concerns topic index)) = run topic index events := by
  have unconcerned (hearing : Hearing) (event : Event)
      (other : event.concerns topic index = false) :
      hearing.step topic index event = hearing := by
    cases event with
    | start _ _ _ => rfl
    | stop _ => rfl
    | publish published _ => exact if_neg (of_decide_eq_false other)
    | listen listener => exact if_neg (of_decide_eq_false other)
  induction events using List.reverseRecOn with
  | nil => rfl
  | append_singleton events event inductionHypothesis =>
      rw [List.filter_append, run_concat, ← inductionHypothesis]
      cases concerned : event.concerns topic index with
      | true => rw [List.filter_cons_of_pos concerned, List.filter_nil, run_concat]
      | false =>
          rw [List.filter_cons_of_neg (by simp [concerned]), List.filter_nil, List.append_nil,
            unconcerned _ event concerned]

end Hearing

/-! ## Stages that hear -/

variable {κ ν : Type}

/-- An open stage listens on a topic and has heard this much since it was opened with a
threshold. -/
def Hears
    (deployment : Deployment κ ν)
    (index : Nat)
    (subtask : Subtask)
    (threshold : Nat)
    (topic : String)
    (hearing : Hearing) : Prop :=
  ∃ stage controller id, deployment.stages[index]? = some stage ∧
    stage.controller = some controller ∧
    controller.Tracks threshold (Adjustment.deltas hearing.handled) stage.trigger.maxCount ∧
    stage.subtask = some subtask ∧
    stage.listening = some ⟨topic, id⟩ ∧
    deployment.broker.find? id = some ⟨topic, hearing.waiting, true⟩

/-- A stage, open or not, listens nowhere and has a threshold. -/
def Rests
    (deployment : Deployment κ ν)
    (index : Nat)
    (isOpen : Bool)
    (threshold : Nat) : Prop :=
  ∃ stage, deployment.stages[index]? = some stage ∧
    stage.controller.isSome = isOpen ∧
    stage.listening = none ∧
    stage.trigger.maxCount = threshold

section Opening

variable {deployment : Deployment κ ν} {index : Nat} {stage : Stage κ ν}

/-- A stage that is opened with a topic at its broker starts to hear. -/
theorem hears_start
    (wired : deployment.Wired)
    (present : deployment.stages[index]? = some stage)
    (now : Instant)
    {subtask : Subtask}
    {topic : String}
    (heard : stage.heardTopic? subtask.index = some topic) :
    (deployment.step (.start index now subtask)).Hears index subtask stage.trigger.maxCount topic
      .nothing := by
  have stopped := stage.minds_stopListening wired.isFresh
  have started : stage.start now subtask deployment.broker =
      ({ stage.reopened now subtask with
          listening := some ⟨topic, (stage.stopListening deployment.broker).2.nextId⟩ },
        ((stage.stopListening deployment.broker).2.subscribe topic).1) := by
    have reopened : (stage.reopened now subtask).heardTopic? subtask.index = some topic := heard
    rw [Stage.start_eq, Stage.startListening_eq, reopened]
  refine ⟨(stage.start now subtask deployment.broker).1, .ofSubtask subtask.index,
    (stage.stopListening deployment.broker).2.nextId, ?_, ?_, ?_, ?_, ?_, ?_⟩
  · rw [step, getElem?_change, if_pos rfl, present]
    rfl
  · rw [started]
    rfl
  · rw [started]
    exact Controller.tracks_ofSubtask subtask.index stage.trigger.maxCount
  · rw [started]
    rfl
  · rw [started]
  · rw [step, broker_change present, started]
    change ((stage.stopListening deployment.broker).2.subscribe topic).1.find? _ = _
    rw [MemoryBroker.find?_subscribe stopped.isFresh, if_pos rfl]
    rfl

theorem rests_start
    (present : deployment.stages[index]? = some stage)
    (now : Instant)
    {subtask : Subtask}
    (unheard : stage.heardTopic? subtask.index = none) :
    (deployment.step (.start index now subtask)).Rests index true stage.trigger.maxCount := by
  have started : (stage.start now subtask deployment.broker).1 = stage.reopened now subtask := by
    have reopened : (stage.reopened now subtask).heardTopic? subtask.index = none := unheard
    rw [Stage.start_eq, Stage.startListening_eq, reopened]
  refine ⟨stage.reopened now subtask, ?_, rfl, rfl, rfl⟩
  rw [step, getElem?_change, if_pos rfl, present, ← started]
  rfl

theorem rests_stop
    (present : deployment.stages[index]? = some stage) :
    (deployment.step (.stop index)).Rests index false stage.trigger.maxCount := by
  refine ⟨{ stage with listening := none, controller := none, bundle := .empty }, ?_, rfl, rfl,
    rfl⟩
  rw [step, getElem?_change, if_pos rfl, present, Option.map_some]
  simp only [Stage.stop, Stage.fst_stopListening]

end Opening

/-! ## Hearing and resting go on -/

section Quiet

variable {deployment : Deployment κ ν} {index : Nat} {subtask : Subtask} {threshold : Nat}
  {topic : String} {hearing : Hearing} {isOpen : Bool}

theorem Hears.change
    (wired : deployment.Wired)
    (hears : deployment.Hears index subtask threshold topic hearing)
    {other : Nat}
    (different : other ≠ index)
    {make : Stage κ ν → MemoryBroker → Stage κ ν × MemoryBroker}
    (minds : ∀ stage : Stage κ ν, stage.Minds deployment.broker (make stage deployment.broker)) :
    (deployment.change other make).Hears index subtask threshold topic hearing := by
  obtain ⟨stage, controller, id, present, isOpen, tracks, opened, listens, found⟩ := hears
  refine ⟨stage, controller, id, ?_, isOpen, tracks, opened, listens, ?_⟩
  · rw [getElem?_change, if_neg (Ne.symm different), present]
  · have own : stage.subscription? = some id := by
      rw [Stage.subscription?, listens]
      rfl
    rw [wired.find?_change (Ne.symm different) present own minds, found]

/-- What the stage itself takes is the oldest payload that waits. -/
theorem Hears.listen
    (hears : deployment.Hears index subtask threshold topic hearing) :
    (deployment.change index Stage.listen).Hears index subtask threshold topic hearing.next := by
  obtain ⟨stage, controller, id, present, isOpen, tracks, opened, listens, found⟩ := hears
  have taken := MemoryBroker.tryReceive_of_find? found
  have remains : (deployment.broker.update id ⟨topic, hearing.waiting.tail, true⟩).find? id =
      some ⟨topic, hearing.waiting.tail, true⟩ := by
    rw [MemoryBroker.find?_update, if_pos rfl, found]
    rfl
  cases waits : hearing.waiting with
  | nil =>
      have idle : stage.listen deployment.broker =
          (stage, deployment.broker.update id ⟨topic, hearing.waiting.tail, true⟩) := by
        rw [waits] at taken ⊢
        simp only [Stage.listen, listens, taken, List.head?_nil]
      refine ⟨stage, controller, id, ?_, isOpen, ?_, opened, listens, ?_⟩
      · rw [getElem?_change, if_pos rfl, present, Option.map_some, idle]
      · simpa [Hearing.next, waits] using tracks
      · rw [broker_change present, idle]
        exact remains
  | cons payload rest =>
      have handles : stage.listen deployment.broker =
          (stage.receive payload,
            deployment.broker.update id ⟨topic, hearing.waiting.tail, true⟩) := by
        rw [waits] at taken ⊢
        simp only [Stage.listen, listens, taken, List.head?_cons]
      refine ⟨stage.receive payload, (controller.receive stage.trigger payload).1, id, ?_, ?_, ?_,
        ?_, ?_, ?_⟩
      · rw [getElem?_change, if_pos rfl, present, Option.map_some, handles]
      · simp only [Stage.receive, isOpen]
      · simp only [Stage.receive, isOpen, Hearing.next, waits, List.head?_cons,
          Option.toList_some]
        exact tracks.receive payload
      · simpa only [Stage.receive, isOpen] using opened
      · simpa only [Stage.receive, isOpen] using listens
      · rw [broker_change present, handles]
        exact remains

/-- While a stage is neither opened nor closed it goes through its hearing. -/
theorem Hears.step
    (wired : deployment.Wired)
    (hears : deployment.Hears index subtask threshold topic hearing)
    {event : Event}
    (quiet : event.switches index = false) :
    (deployment.step event).Hears index subtask threshold topic
      (hearing.step topic index event) := by
  cases event with
  | start other now otherSubtask =>
      exact hears.change wired (of_decide_eq_false quiet)
        fun stage => stage.minds_start wired.isFresh now otherSubtask
  | stop other =>
      exact hears.change wired (of_decide_eq_false quiet)
        fun stage => stage.minds_stop wired.isFresh
  | publish other payload =>
      obtain ⟨stage, controller, id, present, isOpen, tracks, opened, listens, found⟩ := hears
      refine ⟨stage, controller, id, present, isOpen, ?_, opened, listens, ?_⟩
      · simp only [Hearing.step]
        split
        · exact tracks
        · exact tracks
      · simp only [Deployment.step, MemoryBroker.find?_publish, found, Option.map_some,
          Hearing.step]
        by_cases same : topic = other
        · rw [if_pos same, if_pos same.symm]
          rfl
        · rw [if_neg same, if_neg (Ne.symm same)]
  | listen other =>
      by_cases same : other = index
      · subst same
        rw [Hearing.step, if_pos rfl]
        exact hears.listen
      · rw [Hearing.step, if_neg same]
        exact hears.change wired same fun stage => stage.minds_listen wired.isFresh

theorem Hears.run
    (wired : deployment.Wired)
    (hears : deployment.Hears index subtask threshold topic .nothing)
    {events : List Event}
    (quiet : Quiet index events) :
    (deployment.run events).Hears index subtask threshold topic
      (Hearing.run topic index events) := by
  induction events using List.reverseRecOn with
  | nil => exact hears
  | append_singleton events event inductionHypothesis =>
      rw [run_concat, Hearing.run_concat]
      obtain ⟨earlier, last⟩ := quiet_concat_iff.mp quiet
      exact Hears.step (wired.run events) (inductionHypothesis earlier) last

theorem Rests.step
    (rests : deployment.Rests index isOpen threshold)
    {event : Event}
    (quiet : event.switches index = false) :
    (deployment.step event).Rests index isOpen threshold := by
  obtain ⟨stage, present, opened, silent, maxCount⟩ := rests
  have kept {other : Nat} (different : other ≠ index)
      (make : Stage κ ν → MemoryBroker → Stage κ ν × MemoryBroker) :
      (deployment.change other make).Rests index isOpen threshold := by
    refine ⟨stage, ?_, opened, silent, maxCount⟩
    rw [getElem?_change, if_neg (Ne.symm different), present]
  cases event with
  | start other now subtask => exact kept (of_decide_eq_false quiet) _
  | stop other => exact kept (of_decide_eq_false quiet) _
  | publish topic payload => exact ⟨stage, present, opened, silent, maxCount⟩
  | listen other =>
      by_cases same : other = index
      · subst same
        refine ⟨stage, ?_, opened, silent, maxCount⟩
        rw [Deployment.step, getElem?_change, if_pos rfl, present, Option.map_some]
        simp only [Stage.listen, silent]
      · exact kept same _

theorem Rests.run
    (rests : deployment.Rests index isOpen threshold)
    {events : List Event}
    (quiet : Quiet index events) :
    (deployment.run events).Rests index isOpen threshold := by
  induction events using List.reverseRecOn with
  | nil => exact rests
  | append_singleton events event inductionHypothesis =>
      rw [run_concat]
      obtain ⟨earlier, last⟩ := quiet_concat_iff.mp quiet
      exact (inductionHypothesis earlier).step last

end Quiet
end Deployment
end PreAggregation
