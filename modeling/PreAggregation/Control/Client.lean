import PreAggregation.Control.Frame.Stream
import PreAggregation.Control.Subscription

/-!
# Clients of a broker

A client subscribes to one topic.  Messages that arrive before the broker confirms belong
to the subscription already.
-/

namespace PreAggregation

/-- The client's end of a connection. -/
structure Client where
  /-- Whether the broker has confirmed the subscription. -/
  acknowledged : Bool
  /-- The payloads of the subscription. -/
  subscription : Subscription
  deriving DecidableEq, Repr

namespace Client

/-- A client that has asked for a topic. -/
def ofTopic (topic : String) : Client :=
  ⟨false, .ofTopic topic⟩

/-- The frame by which a client asks for a topic. -/
def request (topic : String) : Frame :=
  { kind := .subscribe, topic }

/-- What a frame of the broker makes of a client. -/
def onFrame (client : Client) (frame : Frame) : Client :=
  match frame.kind with
  | .message => { client with subscription := client.subscription.push frame.payload }
  | .subscribed =>
      { client with
        acknowledged := client.acknowledged || frame.topic = client.subscription.topic }
  | .subscribe | .publish => client

/-- An error as one of the subscription to a topic. -/
def failure (topic : String) (error : Error) : Error :=
  error.within (.stage (.controlChannel topic))

/-- The bytes by which a client asks for a topic. -/
def requestBytes (topic : String) : Except Error (List UInt8) :=
  (request topic).encode.mapError fun fault => failure topic ⟨.frame fault, []⟩

/-- The frame of a publisher. -/
def publication (topic : String) (payload : List UInt8) : Frame :=
  { kind := .publish, topic, payload }

/-- The bytes of a publisher. -/
def publicationBytes (topic : String) (payload : List UInt8) : Except Error (List UInt8) :=
  (publication topic payload).encode.mapError fun fault => ⟨.frame fault, []⟩

end Client
end PreAggregation
