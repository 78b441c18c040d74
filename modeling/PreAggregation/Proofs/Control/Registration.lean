import PreAggregation.Proofs.Control.Carriage
import PreAggregation.Proofs.Control.Moves

/-!
# Registration at a broker

A connection gets nothing before it is registered.  From then on it gets one message for
each publication of its topic: what is published is at every time either queued to it or
pending at a handler.
-/

namespace PreAggregation

namespace Note

/-- Whether a note is about a connection. -/
def concerns (connection : Nat) : Note → Bool
  | .registered other _ => other = connection
  | .published _ _ => false
  | .queued delivery => delivery.recipient = connection

def delivery? : Note → Option Delivery
  | .queued delivery => some delivery
  | .registered _ _ | .published _ _ => none

/-- The frames that are queued to a connection. -/
def sentTo
    (connection : Nat)
    (notes : List Note) : List Frame :=
  Router.queuedTo connection (notes.filterMap delivery?)

/-- The payloads that are published for a topic. -/
def publications
    (topic : String)
    (notes : List Note) : List (List UInt8) :=
  notes.flatMap fun
    | .published other payload => if other = topic then [payload] else []
    | .registered _ _ | .queued _ => []

/-- The messages that publications make for a connection. -/
def routedTo
    (router : Router)
    (connection : Nat)
    (notes : List Note) : List Frame :=
  notes.flatMap fun
    | .published topic payload =>
        if connection ∈ router.subscribers topic then [⟨.message, topic, payload⟩] else []
    | .registered _ _ | .queued _ => []

theorem sentTo_append
    (connection : Nat)
    (first second : List Note) :
    sentTo connection (first ++ second) = sentTo connection first ++ sentTo connection second := by
  rw [sentTo, List.filterMap_append, Router.queuedTo_append, sentTo, sentTo]

/-- Nothing is queued to a connection that no note is about. -/
theorem sentTo_eq_nil
    {connection : Nat}
    {notes : List Note}
    (silent : ∀ note ∈ notes, note.concerns connection = false) :
    sentTo connection notes = [] := by
  rw [sentTo, Router.queuedTo, List.map_eq_nil_iff, List.filter_eq_nil_iff]
  intro delivery member
  obtain ⟨note, among, delivery_eq⟩ := List.mem_filterMap.mp member
  cases note with
  | registered other topic => exact absurd delivery_eq (by simp [delivery?])
  | published topic payload => exact absurd delivery_eq (by simp [delivery?])
  | queued other =>
      cases delivery_eq
      have other := silent _ among
      simpa [concerns] using other

theorem mem_sentTo
    {notes : List Note}
    {delivery : Delivery}
    (member : .queued delivery ∈ notes) :
    delivery.frame ∈ sentTo delivery.recipient notes := by
  apply List.mem_map_of_mem
  rw [List.mem_filter]
  exact ⟨List.mem_filterMap.mpr ⟨_, member, rfl⟩, by simp⟩

theorem sentTo_queued
    (connection : Nat)
    (delivery : Delivery) :
    sentTo connection [.queued delivery] =
      if delivery.recipient = connection then [delivery.frame] else [] := by
  by_cases same : delivery.recipient = connection
  · simp [sentTo, Router.queuedTo, delivery?, same]
  · simp [sentTo, Router.queuedTo, delivery?, same]

/-- Reading a frame queues nothing. -/
theorem sentTo_ofFrame
    (connection sender : Nat)
    (frame : Frame) :
    sentTo connection (ofFrame sender frame) = [] := by
  unfold ofFrame
  split <;> rfl

/-- What publications make for a connection of one topic are the messages of that topic. -/
theorem messages_routedTo
    {router : Router}
    {connection : Nat}
    {topic : String}
    (mem_iff : ∀ other, connection ∈ router.subscribers other ↔ other = topic)
    (notes : List Note) :
    Frame.messages (routedTo router connection notes) = publications topic notes := by
  induction notes with
  | nil => rfl
  | cons note rest inductionHypothesis =>
      rw [routedTo, publications, List.flatMap_cons, List.flatMap_cons, Frame.messages_append]
      congr 1
      cases note with
      | registered other topic => rfl
      | queued delivery => rfl
      | published other payload =>
          dsimp only
          by_cases same : other = topic
          · rw [if_pos ((mem_iff other).mpr same), if_pos same]
            rfl
          · rw [if_neg fun member => same ((mem_iff other).mp member), if_neg same]
            rfl

theorem topic_of_mem_routedTo
    {router : Router}
    {connection : Nat}
    {topic : String}
    (mem_iff : ∀ other, connection ∈ router.subscribers other ↔ other = topic)
    {notes : List Note}
    {frame : Frame}
    (member : frame ∈ routedTo router connection notes) :
    frame.topic = topic := by
  obtain ⟨note, _, among⟩ := List.mem_flatMap.mp member
  cases note with
  | registered other topic => exact absurd among List.not_mem_nil
  | queued delivery => exact absurd among List.not_mem_nil
  | published other payload =>
      dsimp only at among
      split at among
      · rename_i subscribed
        rw [List.mem_singleton.mp among]
        exact (mem_iff other).mp subscribed
      · exact absurd among List.not_mem_nil

theorem routedTo_eq_nil
    {router : Router}
    {connection : Nat}
    (notMem : ∀ topic, connection ∉ router.subscribers topic)
    (notes : List Note) :
    routedTo router connection notes = [] := by
  rw [routedTo, List.flatMap_eq_nil_iff]
  intro note _
  cases note with
  | registered other topic => rfl
  | queued delivery => rfl
  | published topic payload => exact if_neg (notMem topic)

end Note

namespace Router

/-- The frame of another connection is answered to a connection as it makes a message for
it. -/
theorem queuedTo_handle_of_ne
    {router : Router}
    {past : List Event}
    (reflects : Reflects router past)
    {sender connection : Nat}
    (other : sender ≠ connection)
    (frame : Frame) :
    queuedTo connection (router.handle sender frame).2 =
      Note.routedTo router connection (Note.ofFrame sender frame) := by
  unfold handle Note.ofFrame
  cases frame.kind with
  | subscribe => simp [queuedTo, other, Note.routedTo]
  | publish =>
      dsimp only
      rw [queuedTo_map (reflects.nodup_subscribers frame.topic), Note.routedTo, List.flatMap_singleton]
  | message => rfl
  | subscribed => rfl

end Router

namespace Wire

/-- The frames that are pending for a connection. -/
def awaiting
    (wire : Wire)
    (connection : Nat) : List Frame :=
  Router.queuedTo connection wire.pendings

/-- A connection stays registered where it is.  What was pending for it and what is
published is queued or pending now. -/
structure Advances
    (wire next : Wire)
    (connection : Nat)
    (notes : List Note) : Prop where
  mem_iff : ∀ topic,
    connection ∈ next.router.subscribers topic ↔ connection ∈ wire.router.subscribers topic
  history_eq : next.history = wire.history ++ notes
  notMem : ∀ topic, .registered connection topic ∉ notes
  perm : (Note.sentTo connection notes ++ next.awaiting connection).Perm
    (wire.awaiting connection ++ Note.routedTo wire.router connection notes)

/-- A connection that is not registered and gets nothing. -/
structure Unregistered
    (wire : Wire)
    (connection : Nat) : Prop where
  notMem : ∀ topic, connection ∉ wire.router.subscribers topic
  silent : ∀ note ∈ wire.history, note.concerns connection = false
  awaiting_eq : wire.awaiting connection = []

/-- A connection that is registered for a topic, with what has been noted since. -/
structure Registered
    (wire : Wire)
    (connection : Nat)
    (topic : String)
    (since : List Note) : Prop where
  mem_iff : ∀ other, connection ∈ wire.router.subscribers other ↔ other = topic
  history_eq : ∃ before, wire.history = before ++ .registered connection topic :: since ∧
    ∀ note ∈ before, note.concerns connection = false
  topic_eq : ∀ frame ∈ Note.sentTo connection since ++ wire.awaiting connection,
    frame.topic = topic
  published_perm : (Note.publications topic since).Perm
    (Frame.messages (Note.sentTo connection since ++ wire.awaiting connection))

section Advances

variable {wire next : Wire} {connection : Nat} {notes since : List Note} {topic : String}

theorem Unregistered.advance
    (unregistered : wire.Unregistered connection)
    (advances : wire.Advances next connection notes) :
    next.Unregistered connection := by
  have perm := advances.perm
  rw [unregistered.awaiting_eq, Note.routedTo_eq_nil unregistered.notMem, List.append_nil] at perm
  have nothing := List.append_eq_nil_iff.mp perm.eq_nil
  refine ⟨?_, ?_, nothing.2⟩
  · intro topic member
    exact unregistered.notMem topic ((advances.mem_iff topic).mp member)
  · intro note member
    rw [advances.history_eq] at member
    rcases List.mem_append.mp member with old | new
    · exact unregistered.silent note old
    · cases note with
      | registered other topic =>
          apply decide_eq_false
          rintro rfl
          exact advances.notMem topic new
      | published topic payload => rfl
      | queued delivery =>
          apply decide_eq_false
          rintro rfl
          have sent := Note.mem_sentTo new
          rw [nothing.1] at sent
          exact absurd sent List.not_mem_nil

theorem Registered.advance
    (registered : wire.Registered connection topic since)
    (advances : wire.Advances next connection notes) :
    next.Registered connection topic (since ++ notes) := by
  -- What is queued or pending grows by what the publications make for the connection.
  have moved : (Note.sentTo connection (since ++ notes) ++ next.awaiting connection).Perm
      ((Note.sentTo connection since ++ wire.awaiting connection) ++
        Note.routedTo wire.router connection notes) := by
    rw [Note.sentTo_append, List.append_assoc, List.append_assoc]
    exact advances.perm.append_left _
  refine ⟨?_, ?_, ?_, ?_⟩
  · intro other
    exact (advances.mem_iff other).trans (registered.mem_iff other)
  · obtain ⟨before, history_eq, silent⟩ := registered.history_eq
    refine ⟨before, ?_, silent⟩
    rw [advances.history_eq, history_eq, List.append_assoc, List.cons_append]
  · intro frame member
    rcases List.mem_append.mp (moved.mem_iff.mp member) with old | new
    · exact registered.topic_eq frame old
    · exact Note.topic_of_mem_routedTo registered.mem_iff new
  · have messages : (Frame.messages (Note.sentTo connection (since ++ notes) ++
        next.awaiting connection)).Perm (Frame.messages ((Note.sentTo connection since ++
          wire.awaiting connection) ++ Note.routedTo wire.router connection notes)) :=
      (moved.filter _).map _
    rw [Frame.messages_append _ (Note.routedTo _ _ _),
      Note.messages_routedTo registered.mem_iff] at messages
    refine List.Perm.trans ?_ messages.symm
    rw [Note.publications, List.flatMap_append]
    exact registered.published_perm.append_right _

/-- All that is queued to a registered connection is queued since. -/
theorem Registered.sentTo_history
    (registered : wire.Registered connection topic since) :
    Note.sentTo connection wire.history = Note.sentTo connection since := by
  obtain ⟨before, history_eq, silent⟩ := registered.history_eq
  rw [history_eq, Note.sentTo_append, Note.sentTo_eq_nil silent]
  rfl

/-! ## Steps -/

/-- Where nothing is noted, nothing pending is lost. -/
theorem advances_of_pendings
    (router_eq : next.router.table = wire.router.table)
    (history_eq : next.history = wire.history)
    (perm : next.pendings.Perm wire.pendings)
    (connection : Nat) :
    wire.Advances next connection [] where
  mem_iff topic := by
    rw [Router.subscribers, router_eq, Router.subscribers]
  history_eq := by
    rw [history_eq, List.append_nil]
  notMem _ := List.not_mem_nil
  perm := by
    rw [Note.routedTo, List.flatMap_nil, List.append_nil]
    exact Router.queuedTo_perm perm connection

theorem advances_opened
    (wire : Wire)
    {link : Link}
    (free : link.pending = [])
    (connection : Nat) :
    wire.Advances (wire.opened link) connection [] := by
  have same : (wire.opened link).pendings = wire.pendings := by
    rw [pendings, opened, List.flatMap_append, List.flatMap_singleton, free, List.append_nil]
    rfl
  apply advances_of_pendings ?_ ?_ (List.Perm.of_eq same)
  · rfl
  · rfl

theorem advances_change
    {target : Nat}
    {changed : Link → Link}
    (same : ∀ link, (changed link).pending = link.pending)
    (connection : Nat) :
    wire.Advances (wire.change target changed) connection [] := by
  apply advances_of_pendings ?_ ?_ (List.Perm.of_eq (pendings_change_of_same same))
  · rfl
  · rfl

theorem advances_answered
    (orderly : wire.Orderly)
    {sender : Nat}
    (other : sender ≠ connection)
    {link : Link}
    {frame : Frame}
    {rest : List UInt8}
    (found : wire.links[sender]? = some link)
    (free : link.pending = []) :
    wire.Advances (wire.answered sender frame rest) connection (Note.ofFrame sender frame) where
  mem_iff topic := by
    rw [answered, Router.mem_subscribers_handle]
    refine ⟨?_, Or.inl⟩
    rintro (member | ⟨same, _⟩)
    · exact member
    · exact absurd same.symm other
  history_eq := rfl
  notMem topic member := by
    unfold Note.ofFrame at member
    split at member
    · cases List.mem_singleton.mp member
      exact other rfl
    · exact absurd (List.mem_singleton.mp member) (by simp)
    · exact absurd member List.not_mem_nil
    · exact absurd member List.not_mem_nil
  perm := by
    have whole : (wire.answered sender frame rest).pendings.Perm _ := pendings_answered found free
    have perm := Router.queuedTo_perm whole connection
    obtain ⟨past, reflects⟩ := orderly.reflects
    rw [Router.queuedTo_append, Router.queuedTo_handle_of_ne reflects other] at perm
    rw [Note.sentTo_ofFrame]
    exact perm.trans List.perm_append_comm

theorem advances_delivered
    {handler : Nat}
    {link : Link}
    {delivery : Delivery}
    {rest : List Delivery}
    (found : wire.links[handler]? = some link)
    (pending_eq : link.pending = delivery :: rest)
    (connection : Nat) :
    wire.Advances (wire.delivered handler delivery rest) connection [.queued delivery] where
  mem_iff _ := Iff.rfl
  history_eq := rfl
  notMem topic member := absurd (List.mem_singleton.mp member) (by simp)
  perm := by
    have perm := Router.queuedTo_perm (pendings_delivered found pending_eq) connection
    rw [← List.singleton_append, Router.queuedTo_append] at perm
    rw [Note.routedTo, List.flatMap_singleton, List.append_nil]
    exact perm.symm

/-- A handler that passes over a delivery takes nothing from the other connections. -/
theorem advances_dropped
    {handler : Nat}
    {link : Link}
    {delivery : Delivery}
    {rest : List Delivery}
    {changed : Link → Link}
    (found : wire.links[handler]? = some link)
    (pending_eq : link.pending = delivery :: rest)
    (taken : (changed link).pending = rest)
    (other : delivery.recipient ≠ connection) :
    wire.Advances (wire.change handler changed) connection [] where
  mem_iff _ := Iff.rfl
  history_eq := (List.append_nil _).symm
  notMem _ := List.not_mem_nil
  perm := by
    have perm := Router.queuedTo_perm (pendings_taken found pending_eq taken) connection
    have passed : Router.queuedTo connection [delivery] = [] := by
      simp [Router.queuedTo, other]
    rw [← List.singleton_append, Router.queuedTo_append, passed] at perm
    rw [Note.routedTo, List.flatMap_nil, List.append_nil]
    exact perm.symm

theorem advances_remove
    (orderly : wire.Orderly)
    {ended : Nat}
    (other : ended ≠ connection) :
    wire.Advances (wire.remove ended) connection [] := by
  unfold remove
  split
  · exact advances_of_pendings rfl rfl (List.Perm.refl _) connection
  · refine ⟨?_, (List.append_nil _).symm, fun _ => List.not_mem_nil, ?_⟩
    · intro topic
      obtain ⟨past, reflects⟩ := orderly.reflects
      rw [Router.subscribers_disconnect reflects.nodup_topics, List.mem_filter]
      exact and_iff_left (decide_eq_true other.symm)
    · rw [Note.routedTo, List.flatMap_nil, List.append_nil]
      exact List.Perm.refl _

/-- A connection is registered when its subscription is read. -/
theorem Unregistered.register
    (unregistered : wire.Unregistered connection)
    {link : Link}
    {topic : String}
    {rest : List UInt8}
    (found : wire.links[connection]? = some link)
    (free : link.pending = []) :
    (wire.answered connection (Client.request topic) rest).Registered connection topic [] := by
  have awaiting_eq : (wire.answered connection (Client.request topic) rest).awaiting connection =
      [{ kind := .subscribed, topic }] := by
    have whole : (wire.answered connection (Client.request topic) rest).pendings.Perm _ :=
      pendings_answered found free
    have perm := Router.queuedTo_perm whole connection
    have nothing : Router.queuedTo connection wire.pendings = [] := unregistered.awaiting_eq
    rw [Router.queuedTo_append, nothing, List.append_nil] at perm
    have answer : Router.queuedTo connection (wire.router.handle connection (Client.request topic)).2 =
        [{ kind := .subscribed, topic }] := by
      simp [Router.queuedTo, Router.handle, Client.request]
    rw [answer] at perm
    exact perm.eq_singleton
  refine ⟨?_, ⟨wire.history, rfl, unregistered.silent⟩, ?_, ?_⟩
  · intro other
    rw [answered, Router.mem_subscribers_handle]
    simp [unregistered.notMem other, Client.request]
  · intro frame member
    rw [awaiting_eq] at member
    cases List.mem_singleton.mp member
    rfl
  · rw [awaiting_eq]
    exact List.Perm.refl _

end Advances

end Wire
end PreAggregation
