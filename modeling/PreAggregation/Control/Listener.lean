import PreAggregation.Control.Subscription
import PreAggregation.Controller.Panel

/-!
# Listeners

A listener hands the payloads of a subscription to a controller, one after another,
until it is stopped or the subscription is closed.  Payloads that are left when it
stops are lost.
-/

namespace PreAggregation

/-- A listener with the subscription it listens on. -/
structure Listener where
  /-- The subscription. -/
  subscription : Subscription
  /-- Whether the listener still takes payloads. -/
  running : Bool
  deriving DecidableEq, Repr

namespace Listener

/-- A listener on a new subscription. -/
def ofTopic (topic : String) : Listener :=
  ⟨.ofTopic topic, true⟩

/-- Hands in a payload, and tells whether the listener can still get it. -/
def offer (listener : Listener) (payload : List UInt8) : Listener × Bool :=
  if listener.running && listener.subscription.live then
    ({ listener with subscription := listener.subscription.push payload }, true)
  else (listener, false)

/-- The listener after its source is gone. -/
def dropSource (listener : Listener) : Listener :=
  { listener with subscription := listener.subscription.close }

/-- The listener told to stop. -/
def stop (listener : Listener) : Listener :=
  ⟨{ listener.subscription with queue := [] }, false⟩

/-- Lets the controller of a panel have the oldest payload.  A listener ends when its
subscription is closed and empty. -/
def step (listener : Listener) (panel : Panel) : Listener × Panel :=
  if !listener.running then (listener, panel)
  else
    match listener.subscription.tryReceive with
    | .ok (some payload, subscription) =>
        ({ listener with subscription }, (panel.step (.receive 0 payload)).1)
    | .ok (none, _) => (listener, panel)
    | .error _ => ({ listener with running := false }, panel)

/-- Lets the controller have all payloads, and notices the end of the subscription. -/
def settle (listener : Listener) (panel : Panel) : Listener × Panel :=
  (List.range (listener.subscription.queue.length + 1)).foldl
    (fun (listener, panel) _ => listener.step panel) (listener, panel)

end Listener
end PreAggregation
