import PreAggregation.Control.Subscription

/-!
# A broker in memory

The broker keeps the subscriptions of all topics.  A payload is put into every
subscription that its topic has when it is published.
-/

namespace PreAggregation

/-- A broker whose subscribers live in the same program. -/
structure MemoryBroker where
  /-- The number of the next subscription. -/
  nextId : Nat
  /-- The subscriptions by number, the oldest first. -/
  subscriptions : List (Nat × Subscription)
  deriving DecidableEq, Repr

namespace MemoryBroker

/-- The broker without subscriptions. -/
def empty : MemoryBroker :=
  ⟨0, []⟩

/-- The number of subscriptions of a topic. -/
def subscriberCount (broker : MemoryBroker) (topic : String) : Nat :=
  broker.subscriptions.countP fun entry => entry.2.topic = topic

/-- Adds a subscription, and gives its number. -/
def subscribe (broker : MemoryBroker) (topic : String) : MemoryBroker × Nat :=
  (⟨broker.nextId + 1, broker.subscriptions ++ [(broker.nextId, .ofTopic topic)]⟩, broker.nextId)

/-- Removes a subscription. -/
def unsubscribe (broker : MemoryBroker) (id : Nat) : MemoryBroker :=
  { broker with subscriptions := broker.subscriptions.filter fun entry => entry.1 ≠ id }

/-- Puts a payload into every subscription of a topic, and gives their number. -/
def publish (broker : MemoryBroker) (topic : String) (payload : List UInt8) :
    MemoryBroker × Nat :=
  ({ broker with
      subscriptions := broker.subscriptions.map fun entry =>
        if entry.2.topic = topic then (entry.1, entry.2.push payload) else entry },
    broker.subscriberCount topic)

/-- The subscription with a number. -/
def find? (broker : MemoryBroker) (id : Nat) : Option Subscription :=
  (broker.subscriptions.find? fun entry => entry.1 = id).map Prod.snd

/-- The broker with a subscription replaced. -/
def update (broker : MemoryBroker) (id : Nat) (subscription : Subscription) : MemoryBroker :=
  { broker with
    subscriptions := broker.subscriptions.map fun entry =>
      if entry.1 = id then (id, subscription) else entry }

/-- Takes the oldest payload out of a subscription, if there is one. -/
def tryReceive (broker : MemoryBroker) (id : Nat) :
    Except Error (Option (List UInt8) × MemoryBroker) :=
  match broker.find? id with
  | none => .ok (none, broker)
  | some subscription =>
      match subscription.tryReceive with
      | .ok (payload, subscription) => .ok (payload, broker.update id subscription)
      | .error error => .error error

end MemoryBroker
end PreAggregation
