import PreAggregation.Control.Broker.Router
import PreAggregation.Control.Client

/-!
# A broker and its peers

A broker handles each connection by itself.  A handler reads frames from the bytes that
have arrived, and queues what answers a frame one delivery at a time before it reads the
next one.  A writer takes the frames that are queued to its connection and writes their
bytes.  In both directions bytes keep their order and take any time on their way.

Some peers are clients that subscribe to a topic and then only listen.  All others send
what they like.
-/

namespace PreAggregation

/-- Bytes on their way from one end of a connection to the other. -/
structure ByteStream where
  /-- The bytes that have not arrived, the oldest first. -/
  travelling : List UInt8 := []
  /-- The bytes that have arrived and are not read, the oldest first. -/
  arrived : List UInt8 := []
  deriving DecidableEq, Repr

namespace ByteStream

/-- All bytes that are not read. -/
def bytes (stream : ByteStream) : List UInt8 :=
  stream.arrived ++ stream.travelling

/-- The stream with more bytes sent. -/
def write (stream : ByteStream) (bytes : List UInt8) : ByteStream :=
  { stream with travelling := stream.travelling ++ bytes }

/-- The stream after so many more bytes have arrived. -/
def carry (stream : ByteStream) (count : Nat) : ByteStream :=
  ⟨stream.travelling.drop count, stream.arrived ++ stream.travelling.take count⟩

@[simp] theorem bytes_write (stream : ByteStream) (bytes : List UInt8) :
    (stream.write bytes).bytes = stream.bytes ++ bytes :=
  (List.append_assoc _ _ _).symm

@[simp] theorem bytes_carry (stream : ByteStream) (count : Nat) :
    (stream.carry count).bytes = stream.bytes := by
  simp only [bytes, carry, List.append_assoc, List.take_append_drop]

end ByteStream

/-- Both ends of a connection. -/
structure Link where
  /-- What the peer sends. -/
  up : ByteStream := {}
  /-- What the writer sends. -/
  down : ByteStream := {}
  /-- Whether the handler still reads. -/
  handling : Bool := true
  /-- What the handler has to queue before it reads on. -/
  pending : List Delivery := []
  /-- Whether the writer still writes. -/
  writing : Bool := true
  /-- The frames that are queued for the writer, the oldest first. -/
  outbox : List Frame := []
  /-- Whether the peer has given up the connection. -/
  hungUp : Bool := false
  /-- The client, if the peer is one. -/
  client : Option Client := none
  /-- The payloads that were received from the subscription, the oldest first. -/
  yielded : List (List UInt8) := []
  deriving DecidableEq, Repr

namespace Link

/-- The connection of a client that asks for a topic.  Where the topic cannot be asked
for, the connection is given up at once. -/
def asking (topic : String) : Link :=
  match Client.requestBytes topic with
  | .ok bytes => { up := { travelling := bytes }, client := some (.ofTopic topic) }
  | .error _ => { hungUp := true }

/-- What can happen to a connection without its handler. -/
inductive Event
  /-- The peer sends bytes.  A client does not. -/
  | write (bytes : List UInt8)
  /-- The peer gives up the connection. -/
  | hangUp
  /-- Bytes arrive at the broker. -/
  | carryUp (count : Nat)
  /-- Bytes arrive at the peer. -/
  | carryDown (count : Nat)
  /-- The writer writes a frame. -/
  | send
  /-- The writer finds that the peer has gone. -/
  | stop
  /-- The client reads a frame. -/
  | take
  /-- The user of the subscription receives a payload. -/
  | receive
  deriving DecidableEq, Repr

/-- The writer writes the bytes of the next frame.  It stops at a frame without bytes. -/
def send (link : Link) : Link :=
  match link.outbox with
  | [] => link
  | frame :: rest =>
      if link.writing then
        match frame.encode with
        | .ok bytes => { link with down := link.down.write bytes, outbox := rest }
        | .error _ => { link with writing := false }
      else link

/-- The client reads a frame.  It stops at bytes that are none. -/
def take (link : Link) : Link :=
  match link.client with
  | none => link
  | some client =>
      if client.subscription.live then
        match Frame.read link.down.arrived with
        | (.ok frame, rest) =>
            { link with
              down := { link.down with arrived := rest }, client := some (client.onFrame frame) }
        | (.error (.malformed _), _) =>
            { link with
              client := some { client with subscription := client.subscription.close } }
        | (.error .incomplete, _) => link
      else link

/-- The user of a subscription receives the oldest payload, if there is one. -/
def receive (link : Link) : Link :=
  match link.client with
  | none => link
  | some client =>
      match client.subscription.tryReceive with
      | .ok (some payload, subscription) =>
          { link with
            client := some { client with subscription }, yielded := link.yielded ++ [payload] }
      | .ok (none, _) | .error _ => link

/-- What an event makes of a connection. -/
def step (link : Link) : Event → Link
  | .write bytes =>
      if link.client.isNone then { link with up := link.up.write bytes } else link
  | .hangUp => { link with hungUp := true }
  | .carryUp count => { link with up := link.up.carry count }
  | .carryDown count => { link with down := link.down.carry count }
  | .send => link.send
  | .stop => if link.hungUp then { link with writing := false } else link
  | .take => link.take
  | .receive => link.receive

/-- The connection behind some events. -/
def run (link : Link) (events : List Event) : Link :=
  events.foldl step link

/-- Whether a handler ends for what it meets instead of a frame.  It waits for the rest
of a frame until the peer has gone. -/
def ends (link : Link) : ReadFault → Bool
  | .malformed _ => true
  | .incomplete => link.hungUp && link.up.travelling.isEmpty

end Link

/-- What is noted about the broker. -/
inductive Note
  /-- A connection is registered for a topic. -/
  | registered (connection : Nat) (topic : String)
  /-- A publication is read, and its recipients are settled. -/
  | published (topic : String) (payload : List UInt8)
  | queued (delivery : Delivery)
  deriving DecidableEq, Repr

/-- What is noted when a frame is read. -/
def Note.ofFrame (connection : Nat) (frame : Frame) : List Note :=
  match frame.kind with
  | .subscribe => [.registered connection frame.topic]
  | .publish => [.published frame.topic frame.payload]
  | .message | .subscribed => []

/-- A broker with all its connections. -/
structure Wire where
  /-- The topics of the broker. -/
  router : Router
  /-- The connections by their numbers. -/
  links : List Link
  /-- What has happened at the broker, the oldest first. -/
  history : List Note
  deriving DecidableEq, Repr

namespace Wire

/-- The broker without connections. -/
def empty : Wire :=
  ⟨.empty, [], []⟩

/-- The next thing to happen. -/
inductive Event
  /-- A peer connects that is no client. -/
  | connect
  /-- A client connects and asks for a topic. -/
  | subscribe (topic : String)
  /-- Something happens to a connection without its handler. -/
  | within (connection : Nat) (event : Link.Event)
  /-- The handler reads a frame. -/
  | read (connection : Nat)
  /-- The handler queues one delivery. -/
  | queue (connection : Nat)
  /-- The subscriptions of a connection go.  This is when its handler has stopped. -/
  | remove (connection : Nat)
  deriving DecidableEq, Repr

/-- The wire with one more connection. -/
def opened (wire : Wire) (link : Link) : Wire :=
  { wire with router := wire.router.accept.1, links := wire.links ++ [link] }

/-- The wire with a connection changed. -/
def change (wire : Wire) (connection : Nat) (changed : Link → Link) : Wire :=
  { wire with links := wire.links.modify connection changed }

/-- The wire behind a frame that a handler has read, where some bytes have arrived behind
the frame. -/
def answered (wire : Wire) (connection : Nat) (frame : Frame) (rest : List UInt8) : Wire :=
  let (router, answers) := wire.router.handle connection frame
  { wire.change connection fun link =>
      { link with up := { link.up with arrived := rest }, pending := answers } with
    router, history := wire.history ++ Note.ofFrame connection frame }

/-- A handler reads a frame, or finds that there are no more. -/
def read (wire : Wire) (connection : Nat) : Wire :=
  match wire.links[connection]? with
  | none => wire
  | some link =>
      if link.handling && link.pending.isEmpty then
        match Frame.read link.up.arrived with
        | (.ok frame, rest) => wire.answered connection frame rest
        | (.error fault, _) =>
            if link.ends fault then wire.change connection ({ · with handling := false })
            else wire
      else wire

/-- Whether a connection has a writer. -/
def isWriting (wire : Wire) (connection : Nat) : Bool :=
  wire.links[connection]?.any Link.writing

/-- The wire behind a delivery that a handler has queued, where some are left to it. -/
def delivered (wire : Wire) (connection : Nat) (delivery : Delivery) (rest : List Delivery) : Wire :=
  { (wire.change connection ({ · with pending := rest })).change delivery.recipient fun target =>
      { target with outbox := target.outbox ++ [delivery.frame] } with
    history := wire.history ++ [.queued delivery] }

/-- A handler queues its next delivery.  A recipient without a writer is passed over, but
a handler that cannot confirm a subscription stops. -/
def queue (wire : Wire) (connection : Nat) : Wire :=
  match wire.links[connection]? with
  | none => wire
  | some link =>
      match link.pending with
      | [] => wire
      | delivery :: rest =>
          if wire.isWriting delivery.recipient then wire.delivered connection delivery rest
          else if delivery.frame.kind = .subscribed then
            wire.change connection ({ · with pending := rest, handling := false })
          else wire.change connection ({ · with pending := rest })

/-- The subscriptions of a connection go if its handler has stopped. -/
def remove (wire : Wire) (connection : Nat) : Wire :=
  if wire.links[connection]?.all Link.handling then wire
  else { wire with router := wire.router.disconnect connection }

/-- What an event makes of the wire. -/
def step (wire : Wire) : Event → Wire
  | .connect => wire.opened {}
  | .subscribe topic => wire.opened (.asking topic)
  | .within connection event => wire.change connection (·.step event)
  | .read connection => wire.read connection
  | .queue connection => wire.queue connection
  | .remove connection => wire.remove connection

/-- The wire behind some events. -/
def run (wire : Wire) (events : List Event) : Wire :=
  events.foldl step wire

end Wire
end PreAggregation
