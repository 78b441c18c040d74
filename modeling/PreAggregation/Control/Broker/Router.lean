import PreAggregation.Control.Frame.Stream

/-!
# A broker of connections

The router keeps which connections have subscribed to which topics.  Each frame of a
connection is answered by frames that are queued to connections: a subscription by
its confirmation, a publication by one message for each subscriber.  A connection
that sends anything else than frames is ended.
-/

namespace PreAggregation

/-- A live connection. -/
structure Connection where
  /-- The number of the connection. -/
  id : Nat
  /-- The bytes that have arrived and do not make up a frame yet. -/
  inbox : List UInt8
  deriving DecidableEq, Repr

/-- A frame on its way to a connection. -/
structure Delivery where
  /-- The number of the connection. -/
  recipient : Nat
  /-- The frame. -/
  frame : Frame
  deriving DecidableEq, Repr

/-- The connections of a broker and their subscriptions. -/
structure Router where
  /-- The number of the next connection. -/
  nextId : Nat
  /-- The live connections. -/
  connections : List Connection
  /-- The topics with their subscribers, in the order of subscription. -/
  table : List (String × List Nat)
  deriving DecidableEq, Repr

namespace Router

/-- The router without connections. -/
def empty : Router :=
  ⟨0, [], []⟩

/-- The entries with a connection added to those of a topic, if it is not there. -/
def enroll (topic : String) (connection : Nat) :
    List (String × List Nat) → List (String × List Nat)
  | [] => [(topic, [connection])]
  | (other, subscribers) :: rest =>
      if other ≠ topic then (other, subscribers) :: enroll topic connection rest
      else if connection ∈ subscribers then (other, subscribers) :: rest
      else (other, subscribers ++ [connection]) :: rest

/-- The subscribers of a topic. -/
def subscribers (router : Router) (topic : String) : List Nat :=
  ((router.table.find? fun entry => entry.1 = topic).map Prod.snd).getD []

/-- The number of connections that have subscribed to a topic. -/
def subscriberCount (router : Router) (topic : String) : Nat :=
  (router.subscribers topic).length

/-- Adds a connection, and gives its number. -/
def accept (router : Router) : Router × Nat :=
  ({ router with
      nextId := router.nextId + 1
      connections := router.connections ++ [⟨router.nextId, []⟩] },
    router.nextId)

/-- Ends a connection: its subscriptions go, and topics that have no others. -/
def disconnect (router : Router) (connection : Nat) : Router where
  nextId := router.nextId
  connections := router.connections.filter fun live => live.id ≠ connection
  table := (router.table.map fun entry => (entry.1, entry.2.filter (· ≠ connection))).filter
    fun entry => !entry.2.isEmpty

/-- Whether a connection is live. -/
def isLive (router : Router) (connection : Nat) : Bool :=
  router.connections.any (·.id = connection)

/-- What a frame of a connection makes of the router, and the frames that answer it. -/
def handle (router : Router) (connection : Nat) (frame : Frame) : Router × List Delivery :=
  match frame.kind with
  | .subscribe =>
      ({ router with table := enroll frame.topic connection router.table },
        [⟨connection, { kind := .subscribed, topic := frame.topic }⟩])
  | .publish =>
      (router, (router.subscribers frame.topic).map fun recipient =>
        ⟨recipient, { kind := .message, topic := frame.topic, payload := frame.payload }⟩)
  | .message | .subscribed => (router, [])

/-- What frames of a connection make of the router one after another. -/
def handleAll (router : Router) (connection : Nat) (frames : List Frame) :
    Router × List Delivery :=
  let (router, deliveries) := frames.foldl
    (fun (router, deliveries) frame =>
      let (router, answers) := router.handle connection frame
      (router, answers.reverse ++ deliveries))
    (router, [])
  (router, deliveries.reverse)

/-- What bytes that arrive on a connection make of the router. -/
def feed (router : Router) (connection : Nat) (bytes : List UInt8) : Router × List Delivery :=
  match router.connections.find? (·.id = connection) with
  | none => (router, [])
  | some live =>
      let reading := Frame.readAll (live.inbox ++ bytes)
      let (router, deliveries) := router.handleAll connection reading.frames
      match reading.fault with
      | .malformed _ => (router.disconnect connection, deliveries)
      | .incomplete =>
          ({ router with
              connections := router.connections.map fun other =>
                if other.id = connection then ⟨connection, reading.rest⟩ else other },
            deliveries)

/-- What can happen at a router. -/
inductive Event
  | accept
  | handle (connection : Nat) (frame : Frame)
  | disconnect (connection : Nat)

/-- What an event makes of the router, and the frames that are queued.  Only a live
connection has frames. -/
def step (router : Router) : Event → Router × List Delivery
  | .accept => (router.accept.1, [])
  | .handle connection frame =>
      if router.isLive connection then router.handle connection frame else (router, [])
  | .disconnect connection => (router.disconnect connection, [])

/-- The router after a history of events, and all frames that were queued in it. -/
def run (router : Router) : List Event → Router × List Delivery
  | [] => (router, [])
  | event :: rest =>
      let (next, deliveries) := router.step event
      let (final, later) := next.run rest
      (final, deliveries ++ later)

end Router
end PreAggregation
