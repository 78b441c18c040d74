import PreAggregation.Proofs.Control.Routing

/-!
# Bytes at a broker of connections

The bytes that arrive on a connection amount to the frames that they spell, and to the end
of the connection where they spell none.  So a broker owes its connections what the
history of these events demands, whatever reaches it.
-/

namespace PreAggregation
namespace Router

/-- What reaches a broker over its connections. -/
inductive Traffic
  /-- A new connection. -/
  | accept
  /-- Some bytes on a connection. -/
  | arrive (connection : Nat) (bytes : List UInt8)
  /-- The end of a connection. -/
  | hangUp (connection : Nat)

/-- What is read on a connection: its frames, and its end where there is something else. -/
def readings
    (connection : Nat)
    (stream : List UInt8) : List Event :=
  let reading := Frame.readAll stream
  reading.frames.map (.handle connection) ++
    match reading.fault with
    | .malformed _ => [.disconnect connection]
    | .incomplete => []

/-- The events that something that reaches the broker amounts to. -/
def events
    (router : Router) : Traffic → List Event
  | .accept => [.accept]
  | .arrive connection bytes =>
      match router.connections.find? (·.id = connection) with
      | none => []
      | some live => readings connection (live.inbox ++ bytes)
  | .hangUp connection => [.disconnect connection]

/-- What the broker makes of something that reaches it, and the frames that it queues. -/
def take
    (router : Router) : Traffic → Router × List Delivery
  | .accept => (router.accept.1, [])
  | .arrive connection bytes => router.feed connection bytes
  | .hangUp connection => (router.disconnect connection, [])

/-- The broker behind all that has reached it, all frames that it has queued, and the
events that this amounts to. -/
def takeAll
    (router : Router) : List Traffic → Router × List Delivery × List Event
  | [] => (router, [], [])
  | traffic :: rest =>
      let (next, deliveries) := router.take traffic
      let (final, later, history) := next.takeAll rest
      (final, deliveries ++ later, router.events traffic ++ history)

/-! ## Waiting bytes -/

/-- Two routers that differ in nothing but the bytes that wait for the rest of a frame. -/
structure Agrees (router other : Router) : Prop where
  nextId_eq : other.nextId = router.nextId
  ids_eq : other.connections.map Connection.id = router.connections.map Connection.id
  table_eq : other.table = router.table

theorem Agrees.refl (router : Router) : Agrees router router :=
  ⟨rfl, rfl, rfl⟩

theorem Agrees.isLive_eq
    {router other : Router}
    (agrees : Agrees router other)
    (connection : Nat) :
    other.isLive connection = router.isLive connection := by
  rw [Bool.eq_iff_iff, isLive_iff, isLive_iff, agrees.ids_eq]

theorem Reflects.agrees
    {router other : Router}
    {past : List Event}
    (reflects : Reflects router past)
    (agrees : Agrees router other) :
    Reflects other past where
  nextId_eq := agrees.nextId_eq.trans reflects.nextId_eq
  isLive_eq connection := (agrees.isLive_eq connection).trans (reflects.isLive_eq connection)
  mem_subscribers_iff topic connection := by
    rw [subscribers, agrees.table_eq]
    exact reflects.mem_subscribers_iff topic connection
  nodup_subscribers topic := by
    rw [subscribers, agrees.table_eq]
    exact reflects.nodup_subscribers topic
  nodup_topics := agrees.table_eq ▸ reflects.nodup_topics
  ne_nil := agrees.table_eq ▸ reflects.ne_nil

/-! ## Runs -/

theorem run_cons
    (router : Router)
    (event : Event)
    (rest : List Event) :
    router.run (event :: rest) =
      (((router.step event).1.run rest).1,
        (router.step event).2 ++ ((router.step event).1.run rest).2) := rfl

theorem run_append
    (router : Router)
    (first second : List Event) :
    router.run (first ++ second) =
      (((router.run first).1.run second).1,
        (router.run first).2 ++ ((router.run first).1.run second).2) := by
  induction first generalizing router with
  | nil => rfl
  | cons event rest inductionHypothesis =>
      rw [List.cons_append, run_cons, inductionHypothesis, run_cons, List.append_assoc]

theorem connections_handle
    (router : Router)
    (connection : Nat)
    (frame : Frame) :
    (router.handle connection frame).1.connections = router.connections := by
  unfold handle
  split <;> rfl

theorem nextId_handle
    (router : Router)
    (connection : Nat)
    (frame : Frame) :
    (router.handle connection frame).1.nextId = router.nextId := by
  unfold handle
  split <;> rfl

theorem isLive_handle
    (router : Router)
    (connection other : Nat)
    (frame : Frame) :
    (router.handle connection frame).1.isLive other = router.isLive other := by
  rw [isLive, connections_handle, isLive]

/-- Frames of a live connection are handled one after another. -/
theorem handleAll_eq_run
    {router : Router}
    {connection : Nat}
    (live : router.isLive connection = true)
    (frames : List Frame) :
    router.handleAll connection frames = router.run (frames.map (.handle connection)) := by
  have behind (router : Router) (live : router.isLive connection = true)
      (deliveries : List Delivery) :
      frames.foldl
          (fun (router, deliveries) frame =>
            let (router, answers) := router.handle connection frame
            (router, answers.reverse ++ deliveries))
          (router, deliveries) =
        ((router.run (frames.map (.handle connection))).1,
          (router.run (frames.map (.handle connection))).2.reverse ++ deliveries) := by
    induction frames generalizing router deliveries with
    | nil => rfl
    | cons frame rest inductionHypothesis =>
        have still := (isLive_handle router connection connection frame).trans live
        have handles : router.step (.handle connection frame) = router.handle connection frame :=
          if_pos live
        rw [List.foldl_cons, inductionHypothesis _ still, List.map_cons, run_cons, handles,
          List.reverse_append, List.append_assoc]
  rw [handleAll, behind router live []]
  dsimp only
  rw [List.append_nil, List.reverse_reverse]

/-- Bytes that arrive amount to the events that are read from them. -/
theorem take_eq_run
    (router : Router)
    (traffic : Traffic) :
    (router.take traffic).2 = (router.run (router.events traffic)).2 ∧
      Agrees (router.run (router.events traffic)).1 (router.take traffic).1 := by
  cases traffic with
  | accept => exact ⟨rfl, Agrees.refl _⟩
  | hangUp connection => exact ⟨rfl, Agrees.refl _⟩
  | arrive connection bytes =>
      rw [take, events, feed]
      cases found : router.connections.find? (·.id = connection) with
      | none => exact ⟨rfl, Agrees.refl _⟩
      | some live =>
          have alive : router.isLive connection = true := by
            rw [isLive, List.any_eq_true]
            exact ⟨live, List.mem_of_find?_eq_some found, by simpa using List.find?_some found⟩
          dsimp only
          rw [readings, handleAll_eq_run alive, run_append]
          cases (Frame.readAll (live.inbox ++ bytes)).fault with
          | malformed fault => exact ⟨(List.append_nil _).symm, Agrees.refl _⟩
          | incomplete =>
              refine ⟨(List.append_nil _).symm, rfl, ?_, rfl⟩
              rw [List.map_map]
              apply List.map_congr_left
              intro other _
              by_cases same : other.id = connection
              · exact (congrArg Connection.id (if_pos same)).trans same.symm
              · exact congrArg Connection.id (if_neg same)

theorem Reflects.take
    {router : Router}
    {past : List Event}
    (reflects : Reflects router past)
    (traffic : Traffic) :
    Reflects (router.take traffic).1 (past ++ router.events traffic) :=
  (reflects.run (router.events traffic)).agrees (take_eq_run router traffic).2

theorem Reflects.queuedTo_take
    {router : Router}
    {past : List Event}
    (reflects : Reflects router past)
    (traffic : Traffic)
    (connection : Nat) :
    queuedTo connection (router.take traffic).2 =
      answersAll past connection (router.events traffic) := by
  rw [(take_eq_run router traffic).1]
  exact reflects.queuedTo_run (router.events traffic) connection

theorem Reflects.takeAll
    {router : Router}
    {past : List Event}
    (reflects : Reflects router past)
    (traffic : List Traffic) :
    Reflects (router.takeAll traffic).1 (past ++ (router.takeAll traffic).2.2) ∧
      ∀ connection, queuedTo connection (router.takeAll traffic).2.1 =
        answersAll past connection (router.takeAll traffic).2.2 := by
  induction traffic generalizing router past with
  | nil =>
      refine ⟨?_, fun _ => rfl⟩
      simpa only [Router.takeAll, List.append_nil] using reflects
  | cons first rest inductionHypothesis =>
      obtain ⟨later, queued⟩ := inductionHypothesis (reflects.take first)
      rw [List.append_assoc] at later
      refine ⟨later, ?_⟩
      intro connection
      rw [Router.takeAll, queuedTo_append, answersAll_append, reflects.queuedTo_take first, queued]

/-- What a broker is and has queued behind a history of events. -/
structure Routes
    (router : Router)
    (deliveries : List Delivery)
    (past : List Event) : Prop where
  /-- The frames that are queued to a connection are those that it is owed, in order. -/
  queuedTo_eq : ∀ connection, queuedTo connection deliveries = answersAll [] connection past
  /-- The live connections are those that were accepted and have not ended. -/
  isLive_eq : ∀ connection, router.isLive connection = (session? past connection).isSome
  /-- A topic has as many subscribers as live connections have subscribed to it. -/
  subscriberCount_eq : ∀ topic, router.subscriberCount topic =
    (List.range (accepted past)).countP (hasSubscribed past · topic)
  /-- The subscribers are these connections. -/
  mem_subscribers_iff : ∀ topic connection,
    connection ∈ router.subscribers topic ↔ hasSubscribed past connection topic = true
  /-- No topic is listed twice. -/
  nodup_topics : (router.table.map Prod.fst).Nodup
  /-- A listed topic has subscribers, all different and all live. -/
  listed : ∀ entry ∈ router.table, entry.2 ≠ [] ∧ entry.2.Nodup ∧
    ∀ connection ∈ entry.2, router.isLive connection = true
  /-- The end of a connection queues nothing, and leaves the others what they are. -/
  disconnect : ∀ ended,
    (router.step (.disconnect ended)).2 = [] ∧
    (∀ topic, (router.disconnect ended).subscribers topic =
      (router.subscribers topic).filter (· ≠ ended)) ∧
    (router.disconnect ended).connections = router.connections.filter (·.id ≠ ended)

theorem Reflects.routes
    {router : Router}
    {past : List Event}
    (reflects : Reflects router past)
    {deliveries : List Delivery}
    (queued : ∀ connection, queuedTo connection deliveries = answersAll [] connection past) :
    Routes router deliveries past where
  queuedTo_eq := queued
  isLive_eq := reflects.isLive_eq
  subscriberCount_eq topic := by
    rw [List.countP_eq_length_filter]
    apply List.Perm.length_eq
    rw [List.perm_ext_iff_of_nodup (reflects.nodup_subscribers topic)
      (List.nodup_range.filter _)]
    intro connection
    rw [reflects.mem_subscribers_iff, List.mem_filter, List.mem_range]
    refine ⟨fun has => ⟨?_, has⟩, And.right⟩
    exact lt_accepted_of_isSome_session? (isSome_session?_of_hasSubscribed has)
  mem_subscribers_iff := reflects.mem_subscribers_iff
  nodup_topics := reflects.nodup_topics
  listed entry member := by
    have entry_eq := listed_of_mem reflects.nodup_topics member
    refine ⟨reflects.ne_nil entry member, ?_, ?_⟩
    · rw [← entry_eq]
      exact reflects.nodup_subscribers entry.1
    · intro connection among
      rw [← entry_eq] at among
      have has := (reflects.mem_subscribers_iff entry.1 connection).mp among
      rw [reflects.isLive_eq]
      exact isSome_session?_of_hasSubscribed has
  disconnect ended := ⟨rfl, subscribers_disconnect reflects.nodup_topics ended, rfl⟩

/-- A broker routes by its history, whether frames or bytes reach it. -/
theorem routes_by_history :
    (∀ events, Routes (empty.run events).1 (empty.run events).2 events) ∧
    ∀ traffic, Routes (empty.takeAll traffic).1 (empty.takeAll traffic).2.1
      (empty.takeAll traffic).2.2 := by
  refine ⟨?_, ?_⟩
  · intro events
    exact (reflects_empty.run events).routes (reflects_empty.queuedTo_run events)
  · intro traffic
    obtain ⟨reflects, queued⟩ := reflects_empty.takeAll traffic
    exact reflects.routes queued

/-- A connection that has subscribed twice and publishes gets its own message once.  When
another one ends with a frame that is too long, its subscription is gone. -/
theorem routes_by_history_malformed_end :
    let request : List UInt8 := [0, 0, 0, 4, 1, 0, 1, 116]
    let publication : List UInt8 := [0, 0, 0, 5, 2, 0, 1, 116, 7]
    let traffic : List Traffic := [.accept, .accept, .arrive 0 (request ++ request),
      .arrive 1 request, .arrive 1 [0, 1, 0, 1, 9], .arrive 0 (publication.take 6),
      .arrive 0 (publication.drop 6)]
    let broker := empty.takeAll traffic
    queuedTo 0 broker.2.1 = [⟨.subscribed, "t", []⟩, ⟨.subscribed, "t", []⟩, ⟨.message, "t", [7]⟩] ∧
      queuedTo 1 broker.2.1 = [⟨.subscribed, "t", []⟩] ∧
      broker.1.subscriberCount "t" = 1 := by
  intro request publication traffic broker
  have routed := routes_by_history.2 traffic
  exact ⟨(routed.queuedTo_eq 0).trans (by decide +kernel),
    (routed.queuedTo_eq 1).trans (by decide +kernel),
    (routed.subscriberCount_eq "t").trans (by decide +kernel)⟩

end Router
end PreAggregation
