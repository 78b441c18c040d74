import PreAggregation.Proofs.Stage.Heritage

/-!
# What waits for a stage

What a stage handles and what it leaves is told by its subscription.  A stage that is opened
has a new subscription without payloads, if it has one, and the one that it had before is gone.
-/

namespace PreAggregation
namespace Stage

variable {κ ν : Type}

/-- The subscription on which a stage listens, as the broker has it. -/
def inbox (state : Stage κ ν × MemoryBroker) : Option Subscription :=
  state.1.subscription?.bind state.2.find?

theorem inbox_publish
    (state : Stage κ ν × MemoryBroker)
    (topic : String)
    (payload : List UInt8) :
    inbox (state.1, (state.2.publish topic payload).1) =
      (inbox state).map fun subscription =>
        if subscription.topic = topic then subscription.push payload else subscription := by
  unfold inbox
  cases state.1.subscription? with
  | none => rfl
  | some id => exact MemoryBroker.find?_publish state.2 topic payload id

theorem inbox_of_listening
    {stage : Stage κ ν}
    {listening : Listening}
    (own : stage.listening = some listening)
    (broker : MemoryBroker) :
    inbox (stage, broker) = broker.find? listening.subscription := by
  rw [inbox, subscription?, own]
  rfl

/-- What is handled and what is left is told by the subscription. -/
theorem listen_eq
    (state : Stage κ ν × MemoryBroker) :
    (state.1.listen state.2).1 =
        ((inbox state).bind fun subscription =>
          subscription.tryReceive.toOption.bind Prod.fst).elim state.1 state.1.receive ∧
      inbox (state.1.listen state.2) =
        (inbox state).map fun subscription =>
          subscription.tryReceive.toOption.elim subscription Prod.snd := by
  cases own : state.1.listening with
  | none =>
      have nothing : inbox state = none := by
        rw [inbox, subscription?, own]
        rfl
      have silent : state.1.listen state.2 = state := by
        rw [listen, own]
      rw [silent, nothing]
      exact ⟨rfl, rfl⟩
  | some listening =>
      have waiting : inbox state = state.2.find? listening.subscription :=
        inbox_of_listening own state.2
      rw [waiting]
      cases found : state.2.find? listening.subscription with
      | none =>
          have silent : state.1.listen state.2 = state := by
            simp only [listen, own, MemoryBroker.tryReceive, found]
          rw [silent, waiting, found]
          exact ⟨rfl, rfl⟩
      | some subscription =>
          cases taken : subscription.tryReceive with
          | error error =>
              have silent : state.1.listen state.2 = state := by
                simp only [listen, own, MemoryBroker.tryReceive, found, taken]
              rw [silent, waiting, found]
              simp [taken, Except.toOption]
          | ok received =>
              obtain ⟨payload, rest⟩ := received
              have updated : (state.2.update listening.subscription rest).find?
                  listening.subscription = some rest := by
                rw [MemoryBroker.find?_update, if_pos rfl, found]
                rfl
              cases payload with
              | none =>
                  have handled : state.1.listen state.2 =
                      (state.1, state.2.update listening.subscription rest) := by
                    simp only [listen, own, MemoryBroker.tryReceive, found, taken]
                  have left : inbox (state.1, state.2.update listening.subscription rest) =
                      some rest := (inbox_of_listening own _).trans updated
                  rw [handled, left]
                  simp [taken, Except.toOption]
              | some payload =>
                  have handled : state.1.listen state.2 =
                      (state.1.receive payload, state.2.update listening.subscription rest) := by
                    simp only [listen, own, MemoryBroker.tryReceive, found, taken]
                  have stillOwn : (state.1.receive payload).listening = some listening :=
                    (remains_change (.receive payload) state.1).listening_eq.trans own
                  have left : inbox
                      (state.1.receive payload, state.2.update listening.subscription rest) =
                        some rest := (inbox_of_listening stillOwn _).trans updated
                  rw [handled, left]
                  simp [taken, Except.toOption]

/-! ## The opening -/

theorem fst_start
    (stage : Stage κ ν)
    (now : Instant)
    (subtask : Subtask)
    (broker : MemoryBroker) :
    (stage.start now subtask broker).1 =
      { stage.reopened now subtask with
        listening := (stage.heardTopic? subtask.index).map fun topic =>
          ⟨topic, (stage.stopListening broker).2.nextId⟩ } := by
  have unheard : (stage.reopened now subtask).heardTopic? subtask.index =
      stage.heardTopic? subtask.index := rfl
  rw [start_eq, startListening_eq, unheard]
  cases stage.heardTopic? subtask.index with
  | none => rfl
  | some topic => rfl

/-- A stage that is opened starts with a new subscription, if it has one. -/
theorem inbox_start
    (stage : Stage κ ν)
    (now : Instant)
    (subtask : Subtask)
    {broker : MemoryBroker}
    (isFresh : broker.IsFresh) :
    inbox (stage.start now subtask broker) =
      (stage.heardTopic? subtask.index).map Subscription.ofTopic := by
  have unheard : (stage.reopened now subtask).heardTopic? subtask.index =
      stage.heardTopic? subtask.index := rfl
  rw [start_eq, startListening_eq, unheard]
  cases stage.heardTopic? subtask.index with
  | none => rfl
  | some topic =>
      have stopped := (stage.minds_stopListening isFresh).isFresh
      have waiting :=
        MemoryBroker.find?_subscribe stopped topic (stage.stopListening broker).2.nextId
      rw [if_pos rfl] at waiting
      exact waiting

/-- The earlier subscription is gone. -/
theorem find?_start_of_subscription?
    {stage : Stage κ ν}
    {broker : MemoryBroker}
    (isFresh : broker.IsFresh)
    {id : Nat}
    (own : stage.subscription? = some id)
    (given : id < broker.nextId)
    (now : Instant)
    (subtask : Subtask) :
    (stage.start now subtask broker).2.find? id = none := by
  have stopped := stage.minds_stopListening isFresh
  obtain ⟨listening, listens, rfl⟩ := Option.map_eq_some_iff.mp own
  have removed : (stage.stopListening broker).2.find? listening.subscription = none := by
    rw [stopListening, listens]
    dsimp only
    rw [MemoryBroker.find?_unsubscribe, if_pos rfl]
  rw [start_eq, startListening_eq]
  split
  · have higher := stopped.nextId_le
    dsimp only
    rw [MemoryBroker.find?_subscribe stopped.isFresh, if_neg (by omega), removed]
  · exact removed

end Stage
end PreAggregation
