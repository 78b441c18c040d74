import PreAggregation.Control.Broker.Memory

/-!
# Subscriptions by number

What the operations of a broker in memory do is told by the subscription that is found
under each number.  An operation on one number leaves the others alone.
-/

namespace PreAggregation
namespace MemoryBroker

/-- No subscription has a number that is still to be given. -/
def IsFresh (broker : MemoryBroker) : Prop :=
  ∀ id, broker.nextId ≤ id → broker.find? id = none

theorem isFresh_empty : empty.IsFresh :=
  fun _ _ => rfl

theorem find?_subscribe
    {broker : MemoryBroker}
    (isFresh : broker.IsFresh)
    (topic : String)
    (id : Nat) :
    (broker.subscribe topic).1.find? id =
      if id = broker.nextId then some (.ofTopic topic) else broker.find? id := by
  have absent := isFresh broker.nextId (Nat.le_refl _)
  rw [find?, Option.map_eq_none_iff] at absent
  rw [find?, subscribe, List.find?_append]
  by_cases new : id = broker.nextId
  · subst new
    rw [if_pos rfl, absent, Option.none_or, List.find?_cons_of_pos (by simp)]
    rfl
  · have other : ¬broker.nextId = id := fun same => new same.symm
    rw [if_neg new, List.find?_cons_of_neg (by simpa using other), List.find?_nil, Option.or_none,
      find?]

theorem find?_unsubscribe
    (broker : MemoryBroker)
    (removed id : Nat) :
    (broker.unsubscribe removed).find? id =
      if id = removed then none else broker.find? id := by
  rw [find?, unsubscribe, List.find?_filter]
  by_cases same : id = removed
  · subst same
    rw [if_pos rfl, Option.map_eq_none_iff, List.find?_eq_none]
    intro entry _
    simp
  · rw [if_neg same, find?]
    congr 2
    funext entry
    by_cases found : entry.1 = id
    · simp [found, same]
    · simp [found]

theorem find?_publish
    (broker : MemoryBroker)
    (topic : String)
    (payload : List UInt8)
    (id : Nat) :
    (broker.publish topic payload).1.find? id =
      (broker.find? id).map fun subscription =>
        if subscription.topic = topic then subscription.push payload else subscription := by
  rw [find?, publish, List.find?_map, find?]
  have kept : ((fun entry : Nat × Subscription => decide (entry.1 = id)) ∘ fun entry =>
      if entry.2.topic = topic then (entry.1, entry.2.push payload) else entry) =
        fun entry => decide (entry.1 = id) := by
    funext entry
    simp only [Function.comp_apply]
    split <;> rfl
  rw [kept, Option.map_map, Option.map_map]
  congr 1
  funext entry
  simp only [Function.comp_apply]
  split <;> rfl

theorem find?_update
    (broker : MemoryBroker)
    (changed : Nat)
    (subscription : Subscription)
    (id : Nat) :
    (broker.update changed subscription).find? id =
      if id = changed then (broker.find? id).map fun _ => subscription else broker.find? id := by
  rw [find?, update, List.find?_map, find?]
  have kept : ((fun entry : Nat × Subscription => decide (entry.1 = id)) ∘ fun entry =>
      if entry.1 = changed then (changed, subscription) else entry) =
        fun entry => decide (entry.1 = id) := by
    funext entry
    simp only [Function.comp_apply]
    split
    · rename_i same
      rw [same]
    · rfl
  rw [kept, Option.map_map]
  cases found : broker.subscriptions.find? fun entry => decide (entry.1 = id) with
  | none => simp
  | some entry =>
      have isFound : entry.1 = id := by simpa using List.find?_some found
      by_cases same : id = changed
      · simp [isFound, same]
      · simp [isFound, same]

/-- Receiving gives the oldest payload that waits and leaves the others waiting. -/
theorem tryReceive_of_find?
    {broker : MemoryBroker}
    {id : Nat}
    {topic : String}
    {waiting : List (List UInt8)}
    (found : broker.find? id = some ⟨topic, waiting, true⟩) :
    broker.tryReceive id =
      .ok (waiting.head?, broker.update id ⟨topic, waiting.tail, true⟩) := by
  unfold tryReceive
  rw [found]
  cases waiting with
  | nil => rfl
  | cons payload rest => rfl

/-- Receiving changes at most the subscription that it is about. -/
theorem exists_update_of_tryReceive
    {broker next : MemoryBroker}
    {id : Nat}
    {payload : Option (List UInt8)}
    (taken : broker.tryReceive id = .ok (payload, next)) :
    next = broker ∨ ∃ subscription, next = broker.update id subscription := by
  unfold tryReceive at taken
  split at taken
  · cases taken
    exact .inl rfl
  · split at taken
    · cases taken
      exact .inr ⟨_, rfl⟩
    · exact absurd taken (by simp)

/-! ## Numbers that are still free -/

section Fresh

variable {broker : MemoryBroker}

theorem isFresh_publish
    (isFresh : broker.IsFresh)
    (topic : String)
    (payload : List UInt8) :
    (broker.publish topic payload).1.IsFresh := by
  intro id later
  rw [find?_publish, isFresh id later]
  rfl

theorem isFresh_subscribe
    (isFresh : broker.IsFresh)
    (topic : String) :
    (broker.subscribe topic).1.IsFresh := by
  intro id later
  change broker.nextId + 1 ≤ id at later
  rw [find?_subscribe isFresh, if_neg (by omega), isFresh id (by omega)]

theorem isFresh_unsubscribe
    (isFresh : broker.IsFresh)
    (removed : Nat) :
    (broker.unsubscribe removed).IsFresh := by
  intro id later
  rw [find?_unsubscribe, isFresh id later, ite_self]

theorem isFresh_update
    (isFresh : broker.IsFresh)
    (changed : Nat)
    (subscription : Subscription) :
    (broker.update changed subscription).IsFresh := by
  intro id later
  rw [find?_update, isFresh id later]
  exact ite_self none

end Fresh

end MemoryBroker
end PreAggregation
