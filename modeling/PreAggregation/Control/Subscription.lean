import PreAggregation.Error

/-!
# Control subscriptions

A subscription holds the payloads of one topic that are published and not yet
received.
-/

namespace PreAggregation

/-- The receiving end of a topic. -/
structure Subscription where
  /-- The topic. -/
  topic : String
  /-- The payloads that are not yet received, the oldest first. -/
  queue : List (List UInt8)
  /-- Whether more payloads can arrive. -/
  live : Bool
  deriving DecidableEq, Repr

namespace Subscription

/-- A subscription before the first payload. -/
def ofTopic (topic : String) : Subscription :=
  ⟨topic, [], true⟩

/-- The subscription with one more payload. -/
def push (subscription : Subscription) (payload : List UInt8) : Subscription :=
  { subscription with queue := subscription.queue ++ [payload] }

/-- The subscription without its source. -/
def close (subscription : Subscription) : Subscription :=
  { subscription with live := false }

/-- Takes the oldest payload out, if there is one.  A subscription that is empty for
good fails. -/
def tryReceive (subscription : Subscription) :
    Except Error (Option (List UInt8) × Subscription) :=
  match subscription.queue with
  | payload :: rest => .ok (some payload, { subscription with queue := rest })
  | [] =>
      if subscription.live then .ok (none, subscription)
      else .error ⟨.subscriptionClosed subscription.topic, []⟩

/-- Only while more can arrive is there neither a payload nor an error. -/
theorem live_of_tryReceive {subscription next : Subscription}
    (received : subscription.tryReceive = .ok (none, next)) : subscription.live = true := by
  unfold tryReceive at received
  split at received
  · simp at received
  · split at received
    · assumption
    · cases received

/-- Takes the oldest payload out.  There is no result while the subscription is empty
and more can arrive. -/
def receive? (subscription : Subscription) : Option (Except Error (List UInt8 × Subscription)) :=
  match subscription.tryReceive with
  | .ok (some payload, subscription) => some (.ok (payload, subscription))
  | .ok (none, _) => none
  | .error error => some (.error error)

/-- All fields in one line. -/
def describe (subscription : Subscription) : String :=
  "ControlSubscription \x7b topic: " ++ Text.Quoted.encode subscription.topic ++
    s!", queued: {subscription.queue.length} \x7d"

end Subscription
end PreAggregation
