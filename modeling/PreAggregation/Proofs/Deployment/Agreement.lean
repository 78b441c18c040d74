import PreAggregation.Proofs.Control.Succession
import PreAggregation.Proofs.Stage.Heeding
import PreAggregation.Proofs.Stage.Retention

/-!
# Instances that follow one topic

Any number of instances follow one topic, each through a connection of its own.  Each of
them has the threshold that the messages make of its first one in the order in which they
were sent to its connection.  All have the same threshold if the fan-outs of the topic do
not overlap.  If two of them do, the instances may be left with different thresholds.
-/

namespace PreAggregation

/-! ## Instances -/

namespace Stage

open Bench

variable {φ κ ν ι ο : Type} [DecidableEq κ]

/-- An instance that follows a topic was opened with a threshold, and has handled some
payloads since.  Nobody else has set the threshold. -/
inductive Follows
    (combiner : Combiner φ κ ν ι ο)
    (topic : String) : Nat → List (List UInt8) → Stage κ ν → Prop
  | intro
      (new : Stage κ ν)
      (now : Instant)
      (subtask : Subtask)
      (broker : MemoryBroker)
      (memory : φ)
      (requests : List (List ο × Bench.Request ι))
      (listens : new.config.strategy.topic? new.config.controlTopic subtask.index = some topic)
      (tame : ∀ asked ∈ requests, asked.2.isTame = true) :
      Follows combiner topic new.trigger.maxCount (receivedIn requests)
        (Life.serve combiner memory (new.start now subtask broker).1 requests).bench.stage

theorem Follows.maxCount_eq
    {combiner : Combiner φ κ ν ι ο}
    {topic : String}
    {threshold : Nat}
    {payloads : List (List UInt8)}
    {stage : Stage κ ν}
    (follows : Follows combiner topic threshold payloads stage) :
    stage.trigger.maxCount = Threshold.tuned threshold (Adjustment.deltas payloads) := by
  obtain ⟨new, now, subtask, broker, memory, requests, listens, tame⟩ := follows
  exact (Life.heeds_serve combiner memory (new.heeds_start now subtask broker) tame).maxCount_eq

end Stage

namespace Wire

open Stage Bench

/-! ## Clients -/

/-- The client of a connection has given out all messages of its topic, and no other is on
its way. -/
structure UpToDate
    (wire : Wire)
    (connection : Nat)
    (topic : String)
    (payloads : List (List UInt8)) : Prop where
  /-- The client is confirmed, keeps the connection, and holds nothing back. -/
  exists_client : ∃ link client, wire.links[connection]? = some link ∧
    link.client = some client ∧ client.subscription.topic = topic ∧
    client.acknowledged = true ∧ link.hungUp = false ∧ client.subscription.queue = [] ∧
    link.outbox = [] ∧ link.down.bytes = [] ∧ link.yielded = payloads
  /-- No handler has a message for the connection. -/
  underWay_eq : wire.underWay connection topic = []

theorem Keeps.fannedOut_history
    {wire : Wire}
    {connection : Nat}
    {topic : String}
    {link : Link}
    {client : Client}
    {since : List Note}
    (keeps : wire.Keeps connection topic link client since) :
    fannedOut connection topic wire.history = fannedOut connection topic since := by
  obtain ⟨before, history_eq, silent⟩ := keeps.history_eq
  rw [fannedOut, history_eq, Note.sentTo_append, Note.sentTo_eq_nil silent]
  rfl

/-- A client that is up to date has given out what was sent to its connection. -/
theorem Sound.payloads_eq
    {wire : Wire}
    (sound : wire.Sound)
    {connection : Nat}
    {topic : String}
    {payloads : List (List UInt8)}
    (upToDate : wire.UpToDate connection topic payloads) :
    payloads = fannedOut connection topic wire.history := by
  obtain ⟨link, client, found, isClient, topic_eq, acknowledged, kept, handled, written,
    delivered, yielded⟩ := upToDate.exists_client
  obtain ⟨since, keeps⟩ := sound.keeps found isClient kept acknowledged
  rw [topic_eq] at keeps
  have held := keeps.held_eq written delivered
  rw [handled, List.append_nil, yielded] at held
  rw [held, keeps.fannedOut_history]

/-! ## Agreement -/

/-- A connection is sent in a run what the handlers read, once and in the order of each
handler.  What is still to be queued to it comes last, and what was to be queued to it
before comes first. -/
structure Passes
    (wire : Wire)
    (connection : Nat)
    (topic : String)
    (events : List Event) : Prop where
  byHandler : ∀ handler,
    fannedOut connection topic (notedBy handler wire events) ++
        (wire.run events).owedBy handler connection topic =
      wire.owedBy handler connection topic ++
        Note.publications topic (notedBy handler wire events)
  whole : (fannedOut connection topic (wire.noted events) ++
      (wire.run events).underWay connection topic).Perm
    (wire.underWay connection topic ++ Note.publications topic (wire.noted events))

/-- A connection is sent in a run what the handlers read, in the order in which they read
it.  What is still to be queued to it comes last. -/
def PassesInOrder
    (wire : Wire)
    (connection : Nat)
    (topic : String)
    (events : List Event) : Prop :=
  fannedOut connection topic (wire.noted events) ++ (wire.run events).underWay connection topic =
    Note.publications topic (wire.noted events)

section Agreement

variable {φ ψ κ ν ι ο : Type} [DecidableEq κ]

/-- An instance that is up to date has the threshold that the messages make of its first
one, in the order in which they were sent to its connection. -/
theorem Sound.maxCount_eq
    {wire : Wire}
    (sound : wire.Sound)
    {connection : Nat}
    {topic : String}
    {payloads : List (List UInt8)}
    (upToDate : wire.UpToDate connection topic payloads)
    {combiner : Combiner φ κ ν ι ο}
    {threshold : Nat}
    {stage : Stage κ ν}
    (follows : Follows combiner topic threshold payloads stage) :
    stage.trigger.maxCount =
      Threshold.tuned threshold (Adjustment.deltas (fannedOut connection topic wire.history)) := by
  rw [follows.maxCount_eq, ← sound.payloads_eq upToDate]

/-- However fan-outs interleave, two connections that stay subscribed are sent the same
messages, those of each publisher in its order.  If no fan-out begins while another one is
under way, as is so where one connection publishes, both are sent all messages in one order,
and instances that have handled them agree. -/
theorem followers_agree
    (earlier events : List Event)
    (topic : String)
    {first second : Nat}
    (firstAttentive : (empty.run earlier).Attentive first topic events)
    (secondAttentive : (empty.run earlier).Attentive second topic events) :
    let wire := empty.run earlier
    let next := wire.run events
    wire.Passes first topic events ∧ wire.Passes second topic events ∧
    (wire.Quiet topic →
      (wire.Serial topic events ∨ ∃ source, wire.Sole source topic events) →
      wire.PassesInOrder first topic events ∧ wire.PassesInOrder second topic events ∧
      (fannedOut first topic wire.history = fannedOut second topic wire.history →
        ∀ (combiner : Combiner φ κ ν ι ο) (otherCombiner : Combiner ψ κ ν ι ο)
          threshold payloads others (stage other : Stage κ ν),
          next.UpToDate first topic payloads → next.UpToDate second topic others →
          Follows combiner topic threshold payloads stage →
          Follows otherCombiner topic threshold others other →
          stage.trigger.maxCount = other.trigger.maxCount)) := by
  intro wire next
  have orderly : wire.Orderly := (sound_empty.run earlier).orderly
  have passes {connection : Nat} (attentive : wire.Attentive connection topic events) :
      wire.Passes connection topic events :=
    ⟨attentive.owedBy_run orderly, attentive.underWay_run orderly⟩
  refine ⟨passes firstAttentive, passes secondAttentive, ?_⟩
  intro quiet apart
  have serial : wire.Serial topic events := by
    rcases apart with serial | ⟨source, sole⟩
    · exact serial
    · exact sole.serial quiet
  have inOrder {connection : Nat} (attentive : wire.Attentive connection topic events) :
      wire.PassesInOrder connection topic events := by
    have nothing := quiet.underWay_eq connection
    have ordered := attentive.underWay_run_of_serial orderly serial (by simp [nothing])
    rw [nothing, List.nil_append] at ordered
    exact ordered
  refine ⟨inOrder firstAttentive, inOrder secondAttentive, ?_⟩
  intro same combiner otherCombiner threshold payloads others stage other firstUpToDate
    secondUpToDate firstFollows secondFollows
  have sound : next.Sound := (sound_empty.run earlier).run events
  -- With nothing left to be queued both were sent the publications, and nothing else.
  have sent {connection : Nat} {payloads : List (List UInt8)}
      (attentive : wire.Attentive connection topic events)
      (upToDate : next.UpToDate connection topic payloads) :
      fannedOut connection topic next.history =
        fannedOut connection topic wire.history ++ Note.publications topic (wire.noted events) := by
    have ordered := inOrder attentive
    rw [PassesInOrder, upToDate.underWay_eq, List.append_nil] at ordered
    rw [history_run, fannedOut_append, ordered]
  rw [sound.maxCount_eq firstUpToDate firstFollows, sound.maxCount_eq secondUpToDate secondFollows,
    sent firstAttentive firstUpToDate, sent secondAttentive secondUpToDate, same]

end Agreement

/-! ## Two instances -/

/-- The subscription of a client to the topic `t` is read and confirmed. -/
def joining (connection : Nat) : List Event :=
  [.within connection (.carryUp 8), .read connection, .queue connection,
    .within connection .send, .within connection (.carryDown 8), .within connection .take]

/-- Two messages of nineteen bytes are written, read by the client and handed out. -/
def hearing (connection : Nat) : List Event :=
  [.within connection .send, .within connection .send, .within connection (.carryDown 19),
    .within connection .take, .within connection .take,
    .within connection .receive, .within connection .receive]

/-- The bytes by which `+5` and `-3` are published on the topic `t`. -/
def raising : List UInt8 :=
  [0, 0, 0, 5, 2, 0, 1, 116, 53]

def lowering : List UInt8 :=
  [0, 0, 0, 6, 2, 0, 1, 116, 45, 51]

/-- A stage with a threshold of ten whose instances all listen on the topic `t`. -/
def newOfTen : Stage Nat (List Nat) :=
  unopened { Config.ofCount 10 with controlTopic := "t" } ⟨0, 10, none, .global⟩ .broker 0

/-- A batch, and then some payloads. -/
def requestsWith
    (payloads : List (List UInt8)) : List (List (Nat × List Nat) × Bench.Request (Nat × Nat)) :=
  ([], .batch [⟨1, 1, (1, 5)⟩, ⟨1, 1, (2, 6)⟩]) ::
    payloads.map fun payload => ([], .change (.receive payload))

/-- One of two instances behind some payloads. -/
def instanceOfTen
    (index : Nat)
    (payloads : List (List UInt8)) : Stage Nat (List Nat) :=
  (Life.serve (.ofAggregation strictLists) () (newOfTen.start 0 ⟨"lists", index, 2⟩ .empty).1
    (requestsWith payloads)).bench.stage

theorem follows_instanceOfTen
    (index : Nat)
    (payloads : List (List UInt8)) :
    Follows (.ofAggregation strictLists) "t" 10 payloads (instanceOfTen index payloads) := by
  have received : receivedIn (requestsWith payloads) = payloads := by
    simp [requestsWith, receivedIn, Bench.Request.received, List.flatMap_map]
  have tame : ∀ asked ∈ requestsWith payloads, asked.2.isTame = true := by
    simp [requestsWith, Bench.Request.isTame]
  have follows : Follows (.ofAggregation strictLists) "t" newOfTen.trigger.maxCount
      (receivedIn (requestsWith payloads)) (instanceOfTen index payloads) :=
    .intro newOfTen 0 ⟨"lists", index, 2⟩ .empty () (requestsWith payloads) rfl tame
  rw [received] at follows
  exact follows

/-- A client without anything on its way has handed out all its messages. -/
theorem upToDate_of_found
    {wire : Wire}
    {connection : Nat}
    {payloads : List (List UInt8)}
    (found : wire.links[connection]? =
      some { client := some ⟨true, ⟨"t", [], true⟩⟩, yielded := payloads })
    (underWay_eq : wire.underWay connection "t" = []) :
    wire.UpToDate connection "t" payloads :=
  ⟨⟨_, _, found, rfl, rfl, rfl, rfl, rfl, rfl, rfl, rfl⟩, underWay_eq⟩

/-- One connection publishes twice, and both instances are left with a threshold of seven. -/
theorem followers_agree_one_publisher :
    let earlier : List Event :=
      [.connect, .subscribe "t", .subscribe "t"] ++ joining 1 ++ joining 2
    let events : List Event :=
      [.within 0 (.write (raising ++ lowering)), .within 0 (.carryUp 19), .read 0, .queue 0,
        .queue 0, .read 0, .queue 0, .queue 0] ++ hearing 1 ++ hearing 2
    let wire := empty.run earlier
    let next := wire.run events
    let payloads := [Adjustment.payload 5, Adjustment.payload (-3)]
    wire.Attentive 1 "t" events ∧ wire.Attentive 2 "t" events ∧ wire.Quiet "t" ∧
      wire.Sole 0 "t" events ∧ fannedOut 1 "t" wire.history = fannedOut 2 "t" wire.history ∧
      next.UpToDate 1 "t" payloads ∧ next.UpToDate 2 "t" payloads ∧
      wire.PassesInOrder 1 "t" events ∧ wire.PassesInOrder 2 "t" events ∧
      (instanceOfTen 0 payloads).trigger.maxCount = (instanceOfTen 1 payloads).trigger.maxCount ∧
      (instanceOfTen 1 payloads).trigger.maxCount = 7 := by
  intro earlier events wire next payloads
  have firstAttentive : wire.Attentive 1 "t" events := by decide +kernel
  have secondAttentive : wire.Attentive 2 "t" events := by decide +kernel
  have quiet : wire.Quiet "t" := by decide +kernel
  have sole : wire.Sole 0 "t" events := by decide +kernel
  have same : fannedOut 1 "t" wire.history = fannedOut 2 "t" wire.history := by decide +kernel
  have firstUpToDate : next.UpToDate 1 "t" payloads :=
    upToDate_of_found (by decide +kernel) (by decide +kernel)
  have secondUpToDate : next.UpToDate 2 "t" payloads :=
    upToDate_of_found (by decide +kernel) (by decide +kernel)
  obtain ⟨_, _, apart⟩ := @followers_agree Unit Unit Nat (List Nat) (Nat × Nat)
    (Nat × List Nat) _ earlier events "t" 1 2 firstAttentive secondAttentive
  obtain ⟨firstInOrder, secondInOrder, agree⟩ := apart quiet (.inr ⟨0, sole⟩)
  refine ⟨firstAttentive, secondAttentive, quiet, sole, same, firstUpToDate, secondUpToDate,
    firstInOrder, secondInOrder, ?_, by decide +kernel⟩
  exact agree same (.ofAggregation strictLists) (.ofAggregation strictLists) 10 payloads payloads
    _ _ firstUpToDate secondUpToDate (follows_instanceOfTen 0 payloads)
    (follows_instanceOfTen 1 payloads)

/-- Two connections publish, and their fan-outs overlap.  Both instances have handled both
messages, and are left with different thresholds. -/
theorem followers_disagree :
    let earlier : List Event :=
      [.connect, .connect, .subscribe "t", .subscribe "t"] ++ joining 2 ++ joining 3
    let events : List Event :=
      [.within 0 (.write raising), .within 0 (.carryUp 9), .within 1 (.write lowering),
        .within 1 (.carryUp 10), .read 0, .read 1, .queue 0, .queue 1, .queue 1, .queue 0] ++
        hearing 2 ++ hearing 3
    let wire := empty.run earlier
    let next := wire.run events
    let payloads := [Adjustment.payload 5, Adjustment.payload (-3)]
    wire.Attentive 2 "t" events ∧ wire.Attentive 3 "t" events ∧ wire.Quiet "t" ∧
      fannedOut 2 "t" wire.history = [] ∧ fannedOut 3 "t" wire.history = [] ∧
      fannedOut 2 "t" next.history = payloads ∧ fannedOut 3 "t" next.history = payloads.reverse ∧
      next.UpToDate 2 "t" payloads ∧ next.UpToDate 3 "t" payloads.reverse ∧
      Follows (.ofAggregation strictLists) "t" 10 payloads (instanceOfTen 0 payloads) ∧
      Follows (.ofAggregation strictLists) "t" 10 payloads.reverse
        (instanceOfTen 1 payloads.reverse) ∧
      (instanceOfTen 0 payloads).trigger.maxCount = 7 ∧
      (instanceOfTen 1 payloads.reverse).trigger.maxCount = 15 := by
  intro earlier events wire next payloads
  have firstUpToDate : next.UpToDate 2 "t" payloads :=
    upToDate_of_found (by decide +kernel) (by decide +kernel)
  have secondUpToDate : next.UpToDate 3 "t" payloads.reverse :=
    upToDate_of_found (by decide +kernel) (by decide +kernel)
  refine ⟨by decide +kernel, by decide +kernel, by decide +kernel, by decide +kernel,
    by decide +kernel, by decide +kernel, by decide +kernel, firstUpToDate, secondUpToDate,
    follows_instanceOfTen 0 payloads, follows_instanceOfTen 1 payloads.reverse,
    by decide +kernel, by decide +kernel⟩

end Wire
end PreAggregation
