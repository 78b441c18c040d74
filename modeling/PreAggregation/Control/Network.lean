import PreAggregation.Control.Broker.Router
import PreAggregation.Control.Client

/-!
# Brokers with their clients

A router together with the clients at the other ends of its connections.  Whatever is
sent arrives at once.
-/

namespace PreAggregation

/-- A router and the clients of some of its connections. -/
structure Network where
  /-- The router. -/
  router : Router
  /-- The clients by connection. -/
  clients : List (Nat × Client)

namespace Network

/-- The network without connections. -/
def empty : Network :=
  ⟨.empty, []⟩

/-- Hands frames to the clients they are queued for. -/
def deliver (clients : List (Nat × Client)) (deliveries : List Delivery) : List (Nat × Client) :=
  clients.map fun (connection, client) =>
    (connection, (deliveries.filter (·.recipient = connection)).foldl
      (fun client delivery => client.onFrame delivery.frame) client)

/-- Adds a connection without a client, and gives its number. -/
def connect (network : Network) : Network × Nat :=
  let (router, connection) := network.router.accept
  ({ network with router }, connection)

/-- Sends bytes on a connection, and gives the frames that were queued for them. -/
def send (network : Network) (connection : Nat) (bytes : List UInt8) : Network × List Delivery :=
  let (router, deliveries) := network.router.feed connection bytes
  (⟨router, deliver network.clients deliveries⟩, deliveries)

/-- Ends a connection. -/
def close (network : Network) (connection : Nat) : Network :=
  ⟨network.router.disconnect connection, network.clients.filter (·.1 ≠ connection)⟩

/-- Subscribes a new client to a topic, and gives the number of its connection. -/
def subscribe (network : Network) (topic : String) : Except Error (Network × Nat) := do
  let request ← Client.requestBytes topic
  let (network, connection) := network.connect
  let network := { network with clients := (connection, .ofTopic topic) :: network.clients }
  return ((network.send connection request).1, connection)

/-- Publishes a payload on a connection of its own, and gives the frames that were
queued for it. -/
def publish (network : Network) (topic : String) (payload : List UInt8) :
    Except Error (Network × List Delivery) := do
  let publication ← Client.publicationBytes topic payload
  let (network, connection) := network.connect
  let (network, deliveries) := network.send connection publication
  return (network.close connection, deliveries)

/-- Takes the oldest payload of a client, if there is one. -/
def tryReceive (network : Network) (connection : Nat) :
    Except Error (Option (List UInt8) × Network) :=
  match network.clients.lookup connection with
  | none => .ok (none, network)
  | some client => do
      let (payload, subscription) ← client.subscription.tryReceive
      let clients := network.clients.map fun entry =>
        if entry.1 = connection then (connection, { client with subscription }) else entry
      return (payload, { network with clients })

end Network
end PreAggregation
