import PreAggregation.Error

/-!
# Control frames

The messages between the control broker and its clients.  The body of a frame is the
number of its type, the length of its topic in two bytes, the topic, and the payload.
On the wire the length of the body stands in four bytes before it.  All numbers have
their most significant byte first.
-/

namespace PreAggregation

/-- The type of a frame. -/
inductive FrameKind
  /-- A client asks for the messages of a topic. -/
  | subscribe
  /-- A client hands in a message for a topic. -/
  | publish
  /-- The broker passes on a message of a topic. -/
  | message
  | subscribed
  deriving DecidableEq, Repr

namespace FrameKind

/-- The number of a type on the wire. -/
def number : FrameKind → UInt8
  | .subscribe => 1
  | .publish => 2
  | .message => 3
  | .subscribed => 4

/-- The name of a type. -/
def name : FrameKind → String
  | .subscribe => "Subscribe"
  | .publish => "Publish"
  | .message => "Message"
  | .subscribed => "Subscribed"

/-- All types. -/
def all : List FrameKind :=
  [.subscribe, .publish, .message, .subscribed]

/-- The type with a number on the wire. -/
def ofNumber (number : UInt8) : Except FrameFault FrameKind :=
  if number = 1 then .ok .subscribe
  else if number = 2 then .ok .publish
  else if number = 3 then .ok .message
  else if number = 4 then .ok .subscribed
  else .error (.unknownType number.toNat)

@[simp] theorem ofNumber_number (kind : FrameKind) : ofNumber kind.number = .ok kind := by
  cases kind <;> rfl

end FrameKind

/-- A control frame. -/
structure Frame where
  /-- The type of the frame. -/
  kind : FrameKind
  /-- The topic that the frame is about. -/
  topic : String
  /-- The message. -/
  payload : List UInt8 := []
  deriving DecidableEq, Repr

namespace Frame

/-- The greatest length of a body. -/
def maxLength : Nat :=
  64 * 1024

/-- The greatest length of a topic. -/
def maxTopicLength : Nat :=
  UInt16.size - 1

/-- A number below `2 ^ 16` in two bytes. -/
def twoBytes (number : Nat) : List UInt8 :=
  [UInt8.ofNat (number / 256), UInt8.ofNat number]

/-- A number below `2 ^ 32` in four bytes. -/
def fourBytes (number : Nat) : List UInt8 :=
  twoBytes (number / 65536) ++ twoBytes number

/-- The number in some bytes. -/
def ofBytes (bytes : List UInt8) : Nat :=
  bytes.foldl (fun number byte => number * 256 + byte.toNat) 0

/-- The body of a frame. -/
def body (frame : Frame) : List UInt8 :=
  let topic := Text.Utf8.encode frame.topic
  frame.kind.number :: twoBytes topic.length ++ topic ++ frame.payload

/-- The bytes of a frame on the wire. -/
def encode (frame : Frame) : Except FrameFault (List UInt8) :=
  let topicLength := (Text.Utf8.encode frame.topic).length
  let length := 3 + topicLength + frame.payload.length
  if maxTopicLength < topicLength then .error (.topicTooLong topicLength)
  else if maxLength < length then .error (.tooLarge length)
  else .ok (fourBytes length ++ frame.body)

/-- The frame with a body. -/
def decode (body : List UInt8) : Except FrameFault Frame :=
  match body with
  | number :: high :: low :: rest => do
      let kind ← FrameKind.ofNumber number
      let topicLength := ofBytes [high, low]
      let length := rest.length
      if length < topicLength then throw (.topicTruncated (3 + topicLength) (3 + length))
      let topicBytes := rest.take topicLength
      match Text.Utf8.decode? topicBytes with
      | some topic => return ⟨kind, topic, rest.drop topicLength⟩
      | none =>
          throw (.topicNotText ((Text.Utf8.fault? topicBytes).getD (.incomplete topicLength)))
  | body => .error (.bodyTooShort body.length)

end Frame
end PreAggregation
