import Mathlib.Data.List.Induction
import PreAggregation.Proofs.Control.Memory
import PreAggregation.Stage.Deployment

/-!
# Wiring of a deployment

A stage touches no subscription at the broker but its own, and new subscriptions have
new numbers.  So no two stages ever share a subscription, and what one stage does is
invisible to the subscription of another.
-/

namespace PreAggregation
namespace Stage

variable {κ ν : Type}

/-! ## Opening -/

/-- A stage as it is opened, before it looks for a subscription. -/
def reopened
    (stage : Stage κ ν)
    (now : Instant)
    (subtask : Subtask) : Stage κ ν :=
  { stage with
    bundle := .empty
    trigger := stage.trigger.reset
    histogram := .ofWindow stage.config.histogramWindow.toNat
    lastFlush := now
    subtask := some subtask
    controller := some (.ofSubtask subtask.index)
    listening := none }

/-- The topic on which a stage listens once it is opened for an index, if there is a
topic and a broker that takes subscriptions. -/
def heardTopic?
    (stage : Stage κ ν)
    (index : Nat) : Option String :=
  if stage.link = .broker then stage.config.strategy.topic? stage.config.controlTopic index
  else none

theorem fst_stopListening
    (stage : Stage κ ν)
    (broker : MemoryBroker) :
    (stage.stopListening broker).1 = { stage with listening := none } := by
  unfold stopListening
  split
  · rename_i silent
    rw [← silent]
  · rfl

theorem start_eq
    (stage : Stage κ ν)
    (now : Instant)
    (subtask : Subtask)
    (broker : MemoryBroker) :
    stage.start now subtask broker =
      (stage.reopened now subtask).startListening subtask.index
        (stage.stopListening broker).2 := by
  unfold start reopened
  simp only [fst_stopListening]

theorem startListening_eq
    (stage : Stage κ ν)
    (index : Nat)
    (broker : MemoryBroker) :
    stage.startListening index broker =
      match stage.heardTopic? index with
      | some topic =>
          ({ stage with listening := some ⟨topic, broker.nextId⟩ }, (broker.subscribe topic).1)
      | none => (stage, broker) := by
  unfold startListening heardTopic?
  cases stage.config.strategy.topic? stage.config.controlTopic index with
  | none => cases stage.link <;> rfl
  | some topic => cases stage.link <;> rfl

/-! ## Own subscriptions -/

/-- The number of the subscription on which a stage listens. -/
def subscription? (stage : Stage κ ν) : Option Nat :=
  stage.listening.map Listening.subscription

/-- What a stage does at a broker leaves its settings alone, and all subscriptions but
its own. -/
structure Minds
    (stage : Stage κ ν)
    (broker : MemoryBroker)
    (next : Stage κ ν × MemoryBroker) : Prop where
  /-- The settings stay. -/
  config_eq : next.1.config = stage.config
  /-- The link stays. -/
  link_eq : next.1.link = stage.link
  /-- Numbers are not given back. -/
  nextId_le : broker.nextId ≤ next.2.nextId
  /-- Numbers to be given are free. -/
  isFresh : next.2.IsFresh
  /-- The subscription is the old one or a new one. -/
  subscription?_eq : ∀ id, next.1.subscription? = some id →
    stage.subscription? = some id ∨ broker.nextId ≤ id ∧ id < next.2.nextId
  /-- The subscriptions of others stay as they are. -/
  find?_eq : ∀ id, id < broker.nextId → stage.subscription? ≠ some id →
    next.2.find? id = broker.find? id

theorem Minds.refl
    (stage : Stage κ ν)
    {broker : MemoryBroker}
    (isFresh : broker.IsFresh) :
    stage.Minds broker (stage, broker) where
  config_eq := rfl
  link_eq := rfl
  nextId_le := Nat.le_refl _
  isFresh := isFresh
  subscription?_eq _ own := .inl own
  find?_eq _ _ _ := rfl

theorem Minds.trans
    {stage : Stage κ ν}
    {broker : MemoryBroker}
    {middle last : Stage κ ν × MemoryBroker}
    (first : stage.Minds broker middle)
    (second : middle.1.Minds middle.2 last) :
    stage.Minds broker last where
  config_eq := second.config_eq.trans first.config_eq
  link_eq := second.link_eq.trans first.link_eq
  nextId_le := Nat.le_trans first.nextId_le second.nextId_le
  isFresh := second.isFresh
  subscription?_eq id own := by
    have higher := first.nextId_le
    have higherStill := second.nextId_le
    rcases second.subscription?_eq id own with earlier | new
    · rcases first.subscription?_eq id earlier with earliest | between
      · exact .inl earliest
      · exact .inr (by omega)
    · exact .inr (by omega)
  find?_eq id old foreign := by
    have higher := first.nextId_le
    have stillForeign : middle.1.subscription? ≠ some id := by
      intro own
      rcases first.subscription?_eq id own with earlier | new
      · exact foreign earlier
      · omega
    rw [second.find?_eq id (by omega) stillForeign, first.find?_eq id old foreign]

theorem ne_subscription
    {stage : Stage κ ν}
    {listening : Listening}
    (own : stage.listening = some listening)
    {id : Nat}
    (foreign : stage.subscription? ≠ some id) :
    id ≠ listening.subscription := by
  intro same
  rw [subscription?, own, same] at foreign
  exact foreign rfl

section Operations

variable {broker : MemoryBroker}

theorem minds_stopListening
    (stage : Stage κ ν)
    (isFresh : broker.IsFresh) :
    stage.Minds broker (stage.stopListening broker) := by
  unfold stopListening
  split
  · exact Minds.refl stage isFresh
  · rename_i listening own
    refine ⟨rfl, rfl, Nat.le_refl _, MemoryBroker.isFresh_unsubscribe isFresh _, ?_, ?_⟩
    · intro id impossible
      exact absurd impossible (by simp [subscription?])
    · intro id _ foreign
      rw [MemoryBroker.find?_unsubscribe, if_neg (ne_subscription own foreign)]

theorem minds_startListening
    (stage : Stage κ ν)
    (isFresh : broker.IsFresh)
    (index : Nat) :
    stage.Minds broker (stage.startListening index broker) := by
  rw [startListening_eq]
  split
  · refine ⟨rfl, rfl, Nat.le_succ _, MemoryBroker.isFresh_subscribe isFresh _, ?_, ?_⟩
    · intro id own
      obtain rfl : broker.nextId = id := Option.some.inj own
      exact .inr ⟨Nat.le_refl _, Nat.lt_succ_self _⟩
    · intro id old _
      rw [MemoryBroker.find?_subscribe isFresh, if_neg (by omega)]
  · exact Minds.refl stage isFresh

theorem minds_start
    (stage : Stage κ ν)
    (isFresh : broker.IsFresh)
    (now : Instant)
    (subtask : Subtask) :
    stage.Minds broker (stage.start now subtask broker) := by
  have stopped := stage.minds_stopListening isFresh
  have cleared : stage.Minds broker
      (stage.reopened now subtask, (stage.stopListening broker).2) := by
    refine ⟨rfl, rfl, stopped.nextId_le, stopped.isFresh, ?_, stopped.find?_eq⟩
    intro id impossible
    exact absurd impossible (by simp [subscription?, reopened])
  rw [start_eq]
  exact cleared.trans (minds_startListening _ stopped.isFresh subtask.index)

theorem minds_stop
    (stage : Stage κ ν)
    (isFresh : broker.IsFresh) :
    stage.Minds broker (stage.stop broker) := by
  have stopped := stage.minds_stopListening isFresh
  exact ⟨stopped.config_eq, stopped.link_eq, stopped.nextId_le, stopped.isFresh,
    stopped.subscription?_eq, stopped.find?_eq⟩

theorem exists_receive_eq
    (stage : Stage κ ν)
    (payload : List UInt8) :
    ∃ controller trigger ledger,
      stage.receive payload = { stage with controller, trigger, ledger } := by
  unfold receive
  split
  · exact ⟨_, _, _, rfl⟩
  · exact ⟨_, _, _, rfl⟩

/-- Whatever is received, the broker changes at most under the own number. -/
theorem minds_tryReceive
    {stage : Stage κ ν}
    (isFresh : broker.IsFresh)
    {listening : Listening}
    (own : stage.listening = some listening)
    {payload : Option (List UInt8)}
    {next : MemoryBroker}
    (taken : broker.tryReceive listening.subscription = .ok (payload, next)) :
    stage.Minds broker (stage, next) := by
  rcases MemoryBroker.exists_update_of_tryReceive taken with rfl | ⟨subscription, rfl⟩
  · exact Minds.refl stage isFresh
  · refine ⟨rfl, rfl, Nat.le_refl _, MemoryBroker.isFresh_update isFresh _ _, ?_, ?_⟩
    · intro id same
      exact .inl same
    · intro id _ foreign
      rw [MemoryBroker.find?_update, if_neg (ne_subscription own foreign)]

theorem minds_listen
    (stage : Stage κ ν)
    (isFresh : broker.IsFresh) :
    stage.Minds broker (stage.listen broker) := by
  unfold listen
  split
  · exact Minds.refl stage isFresh
  · rename_i listening own
    split
    · rename_i payload next taken
      have minds := minds_tryReceive isFresh own taken
      obtain ⟨controller, trigger, ledger, handled⟩ := stage.exists_receive_eq payload
      rw [handled]
      exact ⟨minds.config_eq, minds.link_eq, minds.nextId_le, minds.isFresh,
        minds.subscription?_eq, minds.find?_eq⟩
    · rename_i next taken
      exact minds_tryReceive isFresh own taken
    · exact Minds.refl stage isFresh

end Operations
end Stage

namespace Deployment

variable {κ ν : Type}

/-! ## One event -/

theorem getElem?_change
    (deployment : Deployment κ ν)
    (index : Nat)
    (make : Stage κ ν → MemoryBroker → Stage κ ν × MemoryBroker)
    (other : Nat) :
    (deployment.change index make).stages[other]? =
      if other = index then
        deployment.stages[index]?.map fun stage => (make stage deployment.broker).1
      else deployment.stages[other]? := by
  unfold change
  cases present : deployment.stages[index]? with
  | none =>
      by_cases same : other = index
      · rw [if_pos same, same]
        exact present
      · rw [if_neg same]
  | some stage =>
      by_cases same : other = index
      · subst same
        rw [if_pos rfl]
        exact List.getElem?_set_self (List.getElem?_eq_some_iff.mp present).1
      · rw [if_neg same]
        exact List.getElem?_set_ne (Ne.symm same)

theorem broker_change
    {deployment : Deployment κ ν}
    {index : Nat}
    {stage : Stage κ ν}
    (present : deployment.stages[index]? = some stage)
    (make : Stage κ ν → MemoryBroker → Stage κ ν × MemoryBroker) :
    (deployment.change index make).broker = (make stage deployment.broker).2 := by
  simp only [change, present]

theorem change_of_none
    {deployment : Deployment κ ν}
    {index : Nat}
    (absent : deployment.stages[index]? = none)
    (make : Stage κ ν → MemoryBroker → Stage κ ν × MemoryBroker) :
    deployment.change index make = deployment := by
  simp only [change, absent]

/-- The subscriptions of the stages were given by the broker, each to one stage. -/
structure Wired (deployment : Deployment κ ν) : Prop where
  /-- Numbers to be given are free. -/
  isFresh : deployment.broker.IsFresh
  /-- Subscriptions have numbers that were given. -/
  lt_nextId : ∀ {index : Nat} {stage : Stage κ ν} {id : Nat},
    deployment.stages[index]? = some stage → stage.subscription? = some id →
    id < deployment.broker.nextId
  /-- No subscription belongs to two stages. -/
  eq_of_subscription? : ∀ {first second : Nat} {stage other : Stage κ ν} {id : Nat},
    deployment.stages[first]? = some stage → deployment.stages[second]? = some other →
    stage.subscription? = some id → other.subscription? = some id → first = second

section Change

variable {deployment : Deployment κ ν} {index : Nat}
  {make : Stage κ ν → MemoryBroker → Stage κ ν × MemoryBroker}

theorem nextId_le_change
    (minds : ∀ stage : Stage κ ν, stage.Minds deployment.broker (make stage deployment.broker)) :
    deployment.broker.nextId ≤ (deployment.change index make).broker.nextId := by
  cases present : deployment.stages[index]? with
  | none =>
      apply Nat.le_of_eq
      rw [change_of_none present]
  | some stage =>
      rw [broker_change present]
      exact (minds stage).nextId_le

/-- A subscription behind a change was there before, or is a new one of the stage that
acted. -/
theorem subscription?_change
    (minds : ∀ stage : Stage κ ν, stage.Minds deployment.broker (make stage deployment.broker))
    {other : Nat}
    {next : Stage κ ν}
    {id : Nat}
    (found : (deployment.change index make).stages[other]? = some next)
    (own : next.subscription? = some id) :
    (∃ earlier, deployment.stages[other]? = some earlier ∧ earlier.subscription? = some id) ∨
      other = index ∧ deployment.broker.nextId ≤ id ∧
        id < (deployment.change index make).broker.nextId := by
  rw [getElem?_change] at found
  by_cases same : other = index
  · subst same
    rw [if_pos rfl] at found
    obtain ⟨stage, present, rfl⟩ := Option.map_eq_some_iff.mp found
    rcases (minds stage).subscription?_eq id own with old | new
    · exact .inl ⟨stage, present, old⟩
    · rw [broker_change present]
      exact .inr ⟨rfl, new⟩
  · rw [if_neg same] at found
    exact .inl ⟨next, found, own⟩

/-- Where a stage minds its own subscription the wiring stays. -/
theorem Wired.change
    (wired : deployment.Wired)
    (minds : ∀ stage : Stage κ ν, stage.Minds deployment.broker (make stage deployment.broker)) :
    (deployment.change index make).Wired := by
  have higher : deployment.broker.nextId ≤ (deployment.change index make).broker.nextId :=
    nextId_le_change minds
  refine ⟨?_, ?_, ?_⟩
  · cases present : deployment.stages[index]? with
    | none =>
        rw [change_of_none present]
        exact wired.isFresh
    | some stage =>
        rw [broker_change present]
        exact (minds stage).isFresh
  · intro other next id found own
    rcases subscription?_change minds found own with ⟨earlier, foundEarlier, owned⟩ | new
    · have given := wired.lt_nextId foundEarlier owned
      omega
    · exact new.2.2
  · intro first second next nextOther id found foundOther own ownOther
    rcases subscription?_change minds found own with ⟨earlier, foundEarlier, owned⟩ | new
    · have given := wired.lt_nextId foundEarlier owned
      rcases subscription?_change minds foundOther ownOther with
        ⟨earlierOther, foundEarlierOther, ownedOther⟩ | newOther
      · exact wired.eq_of_subscription? foundEarlier foundEarlierOther owned ownedOther
      · omega
    · rcases subscription?_change minds foundOther ownOther with
        ⟨earlierOther, foundEarlierOther, ownedOther⟩ | newOther
      · have given := wired.lt_nextId foundEarlierOther ownedOther
        omega
      · exact new.1.trans newOther.1.symm

end Change

theorem Wired.step
    {deployment : Deployment κ ν}
    (wired : deployment.Wired)
    (event : Event) :
    (deployment.step event).Wired := by
  cases event with
  | start index now subtask =>
      exact wired.change fun stage => stage.minds_start wired.isFresh now subtask
  | stop index => exact wired.change fun stage => stage.minds_stop wired.isFresh
  | publish topic payload =>
      exact ⟨MemoryBroker.isFresh_publish wired.isFresh topic payload, wired.lt_nextId,
        wired.eq_of_subscription?⟩
  | listen index => exact wired.change fun stage => stage.minds_listen wired.isFresh

/-- The subscription of a stage is not touched by what another stage does. -/
theorem Wired.find?_change
    {deployment : Deployment κ ν}
    (wired : deployment.Wired)
    {index other : Nat}
    (different : other ≠ index)
    {stage : Stage κ ν}
    {id : Nat}
    (present : deployment.stages[other]? = some stage)
    (own : stage.subscription? = some id)
    {make : Stage κ ν → MemoryBroker → Stage κ ν × MemoryBroker}
    (minds : ∀ stage : Stage κ ν, stage.Minds deployment.broker (make stage deployment.broker)) :
    (deployment.change index make).broker.find? id = deployment.broker.find? id := by
  cases acting : deployment.stages[index]? with
  | none => rw [change_of_none acting]
  | some actor =>
      rw [broker_change acting]
      refine (minds actor).find?_eq id (wired.lt_nextId present own) ?_
      intro shared
      exact different (wired.eq_of_subscription? present acting own shared)

/-! ## Many events -/

theorem run_append
    (deployment : Deployment κ ν)
    (first second : List Event) :
    deployment.run (first ++ second) = (deployment.run first).run second :=
  List.foldl_append

theorem run_concat
    (deployment : Deployment κ ν)
    (events : List Event)
    (event : Event) :
    deployment.run (events ++ [event]) = (deployment.run events).step event := by
  rw [run_append]
  rfl

theorem Wired.run
    {deployment : Deployment κ ν}
    (wired : deployment.Wired)
    (events : List Event) :
    (deployment.run events).Wired := by
  induction events using List.reverseRecOn with
  | nil => exact wired
  | append_singleton events event inductionHypothesis =>
      rw [run_concat]
      exact inductionHypothesis.step event

theorem getElem?_step_settings
    {deployment : Deployment κ ν}
    (wired : deployment.Wired)
    (event : Event)
    (index : Nat) :
    ((deployment.step event).stages[index]?.map fun stage => (stage.config, stage.link)) =
      deployment.stages[index]?.map fun stage => (stage.config, stage.link) := by
  have changed (acting : Nat)
      {make : Stage κ ν → MemoryBroker → Stage κ ν × MemoryBroker}
      (minds : ∀ stage : Stage κ ν, stage.Minds deployment.broker (make stage deployment.broker)) :
      ((deployment.change acting make).stages[index]?.map fun stage =>
          (stage.config, stage.link)) =
        deployment.stages[index]?.map fun stage => (stage.config, stage.link) := by
    rw [getElem?_change]
    split
    · rename_i same
      rw [same, Option.map_map]
      congr 1
      funext stage
      exact Prod.ext (minds stage).config_eq (minds stage).link_eq
    · rfl
  cases event with
  | start acting now subtask =>
      exact changed acting fun stage => stage.minds_start wired.isFresh now subtask
  | stop acting => exact changed acting fun stage => stage.minds_stop wired.isFresh
  | publish topic payload => rfl
  | listen acting => exact changed acting fun stage => stage.minds_listen wired.isFresh

theorem getElem?_run_settings
    {deployment : Deployment κ ν}
    (wired : deployment.Wired)
    (events : List Event)
    (index : Nat) :
    ((deployment.run events).stages[index]?.map fun stage => (stage.config, stage.link)) =
      deployment.stages[index]?.map fun stage => (stage.config, stage.link) := by
  induction events using List.reverseRecOn with
  | nil => rfl
  | append_singleton events event inductionHypothesis =>
      rw [run_concat, getElem?_step_settings (wired.run events), inductionHypothesis]

end Deployment
end PreAggregation
