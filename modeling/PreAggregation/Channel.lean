import PreAggregation.Error

/-!
# Channels

A channel holds up to a fixed number of elements on their way from its senders to its
receiver.  An operation that has to wait has no result yet.
-/

namespace PreAggregation

/-- A channel with its senders, its receiver and the elements between them. -/
structure Channel (α : Type) where
  /-- How many elements the channel holds. -/
  capacity : Nat
  /-- The elements on their way, the oldest first. -/
  queue : List α
  /-- The number of senders. -/
  senders : Nat
  /-- Whether the receiver exists. -/
  receiver : Bool

namespace Channel

variable {α : Type}

/-- The capacity of a channel for which none is named. -/
def defaultCapacity : Nat :=
  1024

/-- A new channel with one sender. -/
def ofCapacity (capacity : Nat) : Channel α :=
  ⟨capacity, [], 1, true⟩

/-- A fault of a channel as an error. -/
def failure (fault : ChannelFault) : Error :=
  ⟨.channel fault, []⟩

/-- Puts an element in.  There is no result while the channel is full. -/
def send? (channel : Channel α) (element : α) : Option (Except Error (Channel α)) :=
  if !channel.receiver then some (.error (failure .receiverGone))
  else if channel.queue.length < channel.capacity then
    some (.ok { channel with queue := channel.queue ++ [element] })
  else none

/-- Puts an element in if there is room for it. -/
def trySend (channel : Channel α) (element : α) : Except Error (Channel α) :=
  if !channel.receiver then .error (failure .disconnected)
  else if channel.queue.length < channel.capacity then
    .ok { channel with queue := channel.queue ++ [element] }
  else .error (failure .full)

/-- Puts the same element in as often as asked and as there is room for it, and gives
that number. -/
def trySendMany (channel : Channel α) (element : α) (times : Nat) : Nat × Channel α :=
  let room := if channel.receiver then channel.capacity - channel.queue.length else 0
  let sent := min times room
  (sent, { channel with queue := channel.queue ++ List.replicate sent element })

/-- Takes the oldest element out, if there is one. -/
def tryReceive (channel : Channel α) : Except Error (Option α × Channel α) :=
  match channel.queue with
  | element :: rest => .ok (some element, { channel with queue := rest })
  | [] => if channel.senders = 0 then .error (failure .sendersGone) else .ok (none, channel)

/-- Takes the oldest element out.  There is no result while the channel is empty and
has senders. -/
def receive? (channel : Channel α) : Option (Except Error (α × Channel α)) :=
  match channel.tryReceive with
  | .ok (some element, channel) => some (.ok (element, channel))
  | .ok (none, _) => none
  | .error error => some (.error error)

/-- The channel with one more sender. -/
def addSender (channel : Channel α) : Channel α :=
  { channel with senders := channel.senders + 1 }

/-- The channel with one sender less. -/
def dropSender (channel : Channel α) : Channel α :=
  { channel with senders := channel.senders - 1 }

/-- The channel without its receiver. -/
def dropReceiver (channel : Channel α) : Channel α :=
  { channel with receiver := false }

end Channel
end PreAggregation
