import PreAggregation.Control.Client
import PreAggregation.Control.Frame.Transfer

/-!
# Receiving from a broker

A client asks for a topic and reads frames until the broker confirms.  From then on a
reader goes on beside those who receive the payloads, until no further frame can be read.
That the connection and the reader can be started is taken for granted.
-/

namespace PreAggregation

/-- Whether a frame confirms the subscription to a topic. -/
def Frame.Confirms (topic : String) (frame : Frame) : Prop :=
  frame.kind = .subscribed ∧ frame.topic = topic

instance (topic : String) (frame : Frame) : Decidable (frame.Confirms topic) :=
  inferInstanceAs (Decidable (_ ∧ _))

/-- A subscription and the source that feeds it. -/
structure Reception (σ : Type) where
  /-- What the reader has still to read. -/
  source : σ
  /-- The payloads.  The reader is at work as long as more can arrive. -/
  subscription : Subscription

namespace Reception

variable {σ τ : Type}

/-- Reads frames until the broker confirms the subscription.  The messages before the
confirmation belong to it, and all other frames are passed over. -/
def confirm (reader : ByteReader σ) (ending : TransportFault) (subscription : Subscription)
    (source : σ) : Except Error (Reception σ) :=
  match isRead : (reader.readFrame source).1 with
  | .error fault =>
      .error (Client.failure subscription.topic ((fault.error ending).within .noAcknowledgement))
  | .ok frame =>
      have := ByteReader.length_readFrame_lt isRead
      let rest := (reader.readFrame source).2
      if frame.Confirms subscription.topic then .ok ⟨rest, subscription⟩
      else if frame.kind = .message then
        confirm reader ending (subscription.push frame.payload) rest
      else confirm reader ending subscription rest
termination_by (reader.ahead source).length

/-- Asks for a topic and waits for the confirmation.  Nothing is asked for if the topic
does not fit a frame. -/
def subscribe (reader : ByteReader σ) (writer : ByteWriter τ) (ending : TransportFault)
    (topic : String) (source : σ) (sink : τ) : Except Error (Reception σ) × τ :=
  match writer.writeFrame (Client.request topic) sink with
  | (.error fault, sink) => (.error (Client.failure topic ⟨.frame fault, []⟩), sink)
  | (.ok (), sink) => (confirm reader ending (.ofTopic topic) source, sink)

/-- The reader reads one frame.  It stops where it cannot, and then nothing more can
arrive. -/
def read (reader : ByteReader σ) (reception : Reception σ) : Reception σ :=
  if reception.subscription.live then
    match reader.readFrame reception.source with
    | (.ok frame, source) =>
        if frame.kind = .message then ⟨source, reception.subscription.push frame.payload⟩
        else { reception with source }
    | (.error _, source) => ⟨source, reception.subscription.close⟩
  else reception

/-- How many frames the reader can read at most, with its last attempt. -/
def effort (reader : ByteReader σ) (reception : Reception σ) : Nat :=
  if reception.subscription.live then (reader.ahead reception.source).length + 1 else 0

theorem effort_read_lt (reader : ByteReader σ) {reception : Reception σ}
    (live : reception.subscription.live = true) :
    (reception.read reader).effort reader < reception.effort reader := by
  rw [effort, effort, if_pos live, read, if_pos live]
  obtain ⟨result, rest, isRead⟩ :
      ∃ result rest, reader.readFrame reception.source = (result, rest) := ⟨_, _, rfl⟩
  rw [isRead]
  cases result with
  | error fault => exact Nat.succ_pos _
  | ok frame =>
      have shorter := ByteReader.length_readFrame_lt (congrArg Prod.fst isRead)
      rw [isRead] at shorter
      dsimp only
      split <;>
        simpa only [Subscription.push, live, if_true, Nat.add_lt_add_iff_right] using shorter

/-- Takes the oldest payload out, and waits for one while the reader reads as many frames as
`patience` says.  Who has none does not wait. -/
def receiveWithin (reader : ByteReader σ) (patience : Nat) (reception : Reception σ) :
    Except Error (Option (List UInt8)) × Reception σ :=
  match reception.subscription.tryReceive with
  | .ok (some payload, subscription) => (.ok (some payload), { reception with subscription })
  | .error error => (.error error, reception)
  | .ok (none, _) =>
      match patience with
      | 0 => (.ok none, reception)
      | patience + 1 => receiveWithin reader patience (reception.read reader)

/-- Takes the oldest payload out, and waits for one as long as more can arrive. -/
def receive (reader : ByteReader σ) (reception : Reception σ) :
    Except Error (List UInt8) × Reception σ :=
  match received : reception.subscription.tryReceive with
  | .ok (some payload, subscription) => (.ok payload, { reception with subscription })
  | .error error => (.error error, reception)
  | .ok (none, _) =>
      have := effort_read_lt reader (Subscription.live_of_tryReceive received)
      receive reader (reception.read reader)
termination_by reception.effort reader

/-! ## Runs -/

/-- What happens at a reception. -/
inductive Event
  /-- The reader reads a frame. -/
  | read
  /-- Somebody receives a payload, or gives up behind so many frames. -/
  | receiveWithin (patience : Nat)
  /-- Somebody receives a payload. -/
  | receive
  deriving DecidableEq, Repr

/-- What an event makes of a reception, and what is answered to a receiver. -/
def step (reader : ByteReader σ) (reception : Reception σ) :
    Event → Option (Except Error (Option (List UInt8))) × Reception σ
  | .read => (none, reception.read reader)
  | .receiveWithin patience =>
      let (answer, reception) := reception.receiveWithin reader patience
      (some answer, reception)
  | .receive =>
      let (answer, reception) := reception.receive reader
      (some (answer.map some), reception)

/-- What events make of a reception one after another, and what is answered. -/
def run (reader : ByteReader σ) (reception : Reception σ) :
    List Event → List (Except Error (Option (List UInt8))) × Reception σ
  | [] => ([], reception)
  | event :: rest =>
      let (answer, reception) := reception.step reader event
      let (answers, reception) := reception.run reader rest
      (answer.toList ++ answers, reception)

/-- The payloads among some answers. -/
def payloads (answers : List (Except Error (Option (List UInt8)))) : List (List UInt8) :=
  answers.filterMap fun answer => answer.toOption.join

end Reception
end PreAggregation
