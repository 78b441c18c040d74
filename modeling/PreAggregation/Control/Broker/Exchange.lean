import PreAggregation.Bundle
import PreAggregation.Control.Broker.Memory

/-!
# A broker in memory with its users

A broker in memory keeps the sending ends of its subscriptions in a table, and all copies
of the broker have the same table.  The receiving ends are held by the subscribers.

A subscription is made in two steps: it gets a number, and then its sending end is put into
the table.  It is given up in two steps as well: its close hook takes the sending end out of
the table, and then the receiving end is gone.  Whatever others do may come in between.  A
publication too takes out of the table the sending ends whose receiving ends are gone.
-/

namespace PreAggregation

/-- A subscription that is held by a subscriber. -/
structure Holding where
  /-- The number of the subscription. -/
  id : Nat
  /-- The receiving end. -/
  subscription : Subscription
  /-- Whether the close hook has still to run. -/
  hooked : Bool
  deriving DecidableEq, Repr

namespace Holding

/-- Whether the subscription is to a topic and is not being given up. -/
def hears (holding : Holding) (topic : String) : Bool :=
  holding.hooked && holding.subscription.topic = topic

/-- The subscription with one more payload. -/
def push (holding : Holding) (payload : List UInt8) : Holding :=
  { holding with subscription := holding.subscription.push payload }

/-- The subscription behind its close hook, without a sending end. -/
def unhook (holding : Holding) : Holding :=
  { holding with subscription := holding.subscription.close, hooked := false }

end Holding

/-- A broker in memory and what its subscribers hold. -/
structure Exchange where
  /-- The number of the next subscription. -/
  nextId : Nat
  /-- The numbers of the subscriptions that are not yet in the table. -/
  reserved : List Nat
  /-- The topics with the sending ends of their subscriptions. -/
  table : List (String × List Nat)
  /-- The subscriptions that are held, the oldest first. -/
  holdings : List Holding
  /-- The numbers of the subscriptions whose close hooks have run. -/
  closed : List Nat
  deriving DecidableEq, Repr

namespace Exchange

/-- The exchange without subscriptions. -/
def empty : Exchange :=
  ⟨0, [], [], [], []⟩

/-- The sending ends that the table has for a topic. -/
def senders (exchange : Exchange) (topic : String) : List Nat :=
  (Bundle.lookup topic exchange.table).getD []

/-- The number of sending ends that the table has for a topic. -/
def subscriberCount (exchange : Exchange) (topic : String) : Nat :=
  (exchange.senders topic).length

/-- The subscription with a number, if it is held. -/
def find? (exchange : Exchange) (id : Nat) : Option Holding :=
  exchange.holdings.find? fun holding => holding.id = id

/-- The exchange with the held subscription of a number changed. -/
def alter (exchange : Exchange) (id : Nat) (change : Holding → Holding) : Exchange :=
  { exchange with
    holdings := exchange.holdings.map fun holding =>
      if holding.id = id then { change holding with id } else holding }

/-! ## Subscribing -/

/-- Gives a number to a subscription. -/
def reserve (exchange : Exchange) : Exchange × Nat :=
  ({ exchange with
      nextId := exchange.nextId + 1
      reserved := exchange.nextId :: exchange.reserved },
    exchange.nextId)

/-- Puts the sending end of a subscription into the table. -/
def register (exchange : Exchange) (id : Nat) (topic : String) : Exchange :=
  if id ∈ exchange.reserved then
    { exchange with
      reserved := exchange.reserved.filter (· ≠ id)
      table := Bundle.assign topic (exchange.senders topic ++ [id]) exchange.table
      holdings := exchange.holdings ++ [⟨id, .ofTopic topic, true⟩] }
  else exchange

/-- Makes a subscription, and gives its number. -/
def subscribe (exchange : Exchange) (topic : String) : Exchange × Nat :=
  let (exchange, id) := exchange.reserve
  (exchange.register id topic, id)

/-! ## Publishing and receiving -/

/-- Sends a payload to a subscription, and tells whether there is a receiving end. -/
def send (exchange : Exchange) (payload : List UInt8) (id : Nat) : Exchange × Bool :=
  match exchange.find? id with
  | some _ => (exchange.alter id (·.push payload), true)
  | none => (exchange, false)

/-- Sends a payload to some subscriptions, and gives those that have a receiving end. -/
def sendAll (exchange : Exchange) (payload : List UInt8) : List Nat → Exchange × List Nat
  | [] => (exchange, [])
  | id :: rest =>
      let (exchange, taken) := exchange.send payload id
      let (exchange, kept) := exchange.sendAll payload rest
      (exchange, if taken then id :: kept else kept)

/-- Sends a payload to the subscriptions of a topic, and gives their number.  The others
that the table has for the topic are taken out. -/
def publish (exchange : Exchange) (topic : String) (payload : List UInt8) : Exchange × Nat :=
  match Bundle.lookup topic exchange.table with
  | none => (exchange, 0)
  | some senders =>
      let (exchange, kept) := exchange.sendAll payload senders
      ({ exchange with table := Bundle.assign topic kept exchange.table }, kept.length)

/-- Takes the oldest payload out of a subscription, if there is one.  There is no result
for a subscription that is given up. -/
def receive? (exchange : Exchange) (id : Nat) :
    Option (Except Error (Option (List UInt8) × Exchange)) :=
  match exchange.find? id with
  | none => none
  | some holding =>
      if holding.hooked then
        some (holding.subscription.tryReceive.map fun (payload, subscription) =>
          (payload, exchange.alter id fun holding => { holding with subscription }))
      else none

/-! ## Giving up -/

/-- Takes a sending end out of the table, and its topic if there are no others. -/
def remove (exchange : Exchange) (topic : String) (id : Nat) : Exchange :=
  match Bundle.lookup topic exchange.table with
  | none => exchange
  | some senders =>
      let kept := senders.filter (· ≠ id)
      { exchange with
        table :=
          if kept.isEmpty then Bundle.remove topic exchange.table
          else Bundle.assign topic kept exchange.table }

/-- Runs the close hook of a subscription, if it has still to run. -/
def close (exchange : Exchange) (id : Nat) : Exchange :=
  match exchange.find? id with
  | none => exchange
  | some holding =>
      if holding.hooked then
        let exchange := exchange.remove holding.subscription.topic id
        let exchange := exchange.alter id Holding.unhook
        { exchange with closed := exchange.closed ++ [id] }
      else exchange

/-- Removes the receiving end of a subscription whose close hook has run. -/
def release (exchange : Exchange) (id : Nat) : Exchange :=
  { exchange with
    holdings := exchange.holdings.filter fun holding => holding.id ≠ id || holding.hooked }

/-- Gives up a subscription. -/
def drop (exchange : Exchange) (id : Nat) : Exchange :=
  (exchange.close id).release id

/-! ## Histories -/

/-- What can happen at an exchange. -/
inductive Event
  | reserve
  | register (id : Nat) (topic : String)
  | publish (topic : String) (payload : List UInt8)
  | receive (id : Nat)
  | close (id : Nat)
  | release (id : Nat)
  deriving DecidableEq, Repr

/-- What those who cause an event get. -/
inductive Answer
  | none
  | number (id : Nat)
  | delivered (count : Nat)
  /-- The oldest payload, if there is one. -/
  | received (payload : Option (List UInt8))
  | failed (error : Error)

/-- What an event makes of an exchange. -/
def step (exchange : Exchange) : Event → Exchange × Answer
  | .reserve =>
      let (exchange, id) := exchange.reserve
      (exchange, .number id)
  | .register id topic => (exchange.register id topic, .none)
  | .publish topic payload =>
      let (exchange, count) := exchange.publish topic payload
      (exchange, .delivered count)
  | .receive id =>
      match exchange.receive? id with
      | some (.ok (payload, exchange)) => (exchange, .received payload)
      | some (.error error) => (exchange, .failed error)
      | .none => (exchange, .none)
  | .close id => (exchange.close id, .none)
  | .release id => (exchange.release id, .none)

/-- The exchange after a history of events, and what was answered to each. -/
def run (exchange : Exchange) : List Event → Exchange × List (Event × Answer)
  | [] => (exchange, [])
  | event :: rest =>
      let (next, answer) := exchange.step event
      let (final, later) := next.run rest
      (final, (event, answer) :: later)

end Exchange
end PreAggregation
