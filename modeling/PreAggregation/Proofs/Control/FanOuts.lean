import PreAggregation.Proofs.Control.Handshake

/-!
# Fan-outs that interleave

A handler that has read a publication queues its messages one recipient at a time, so the
fan-outs of two handlers may interleave in any way.  Whatever they do, a connection that
stays subscribed is sent each publication once, and those that one handler has read in the
order in which they were read.  Two connections may be sent the publications of different
handlers in different orders, but not if no fan-out of the topic begins while another one
is under way.
-/

namespace PreAggregation
namespace Wire

/-! ## Messages of a topic -/

/-- The payloads of the messages of a topic among some frames. -/
def heard
    (topic : String)
    (frames : List Frame) : List (List UInt8) :=
  Frame.messages (frames.filter (·.topic = topic))

theorem heard_append
    (topic : String)
    (first second : List Frame) :
    heard topic (first ++ second) = heard topic first ++ heard topic second := by
  rw [heard, List.filter_append, Frame.messages_append, heard, heard]

theorem heard_singleton
    (topic : String)
    (frame : Frame) :
    heard topic [frame] =
      if frame.kind = .message ∧ frame.topic = topic then [frame.payload] else [] := by
  by_cases same : frame.topic = topic
  · by_cases kind : frame.kind = .message
    · simp [heard, Frame.messages, same, kind]
    · simp [heard, Frame.messages, same, kind]
  · simp [heard, Frame.messages, same]

theorem heard_perm
    {first second : List Frame}
    (perm : first.Perm second)
    (topic : String) :
    (heard topic first).Perm (heard topic second) :=
  ((perm.filter _).filter _).map _

theorem fannedOut_append
    (connection : Nat)
    (topic : String)
    (first second : List Note) :
    fannedOut connection topic (first ++ second) =
      fannedOut connection topic first ++ fannedOut connection topic second := by
  rw [fannedOut, Note.sentTo_append]
  exact heard_append topic _ _

theorem fannedOut_queued
    (connection : Nat)
    (topic : String)
    (delivery : Delivery) :
    fannedOut connection topic [.queued delivery] =
      heard topic (Router.queuedTo connection [delivery]) := rfl

theorem publications_append
    (topic : String)
    (first second : List Note) :
    Note.publications topic (first ++ second) =
      Note.publications topic first ++ Note.publications topic second :=
  List.flatMap_append

/-- The answers to a frame are for a subscriber of a topic what the frame publishes. -/
theorem heard_answers
    {router : Router}
    {past : List Router.Event}
    (reflects : router.Reflects past)
    {connection : Nat}
    {topic : String}
    (subscribed : connection ∈ router.subscribers topic)
    (sender : Nat)
    (frame : Frame) :
    heard topic (Router.queuedTo connection (router.handle sender frame).2) =
      Note.publications topic (Note.ofFrame sender frame) := by
  unfold Router.handle Note.ofFrame
  cases frame.kind with
  | subscribe =>
      by_cases own : sender = connection
      · simp [Router.queuedTo, own, heard_singleton, Note.publications]
      · simp [Router.queuedTo, own, heard, Frame.messages, Note.publications]
  | publish =>
      dsimp only
      rw [Router.queuedTo_map (reflects.nodup_subscribers frame.topic), Note.publications,
        List.flatMap_singleton]
      dsimp only
      by_cases same : frame.topic = topic
      · rw [same, if_pos subscribed, if_pos rfl, heard_singleton, if_pos ⟨rfl, rfl⟩]
      · rw [if_neg same]
        split
        · rw [heard_singleton, if_neg fun both => same both.2]
        · rfl
  | message => rfl
  | subscribed => rfl

/-! ## What an event does to the fan-outs -/

/-- The deliveries that a handler has still to queue. -/
def pendingAt
    (wire : Wire)
    (handler : Nat) : List Delivery :=
  wire.links[handler]?.elim [] Link.pending

/-- What an event adds to the history. -/
def notes
    (wire : Wire)
    (event : Event) : List Note :=
  (wire.step event).history.drop wire.history.length

/-- What an event does to the deliveries that are pending, with what is noted. -/
inductive Shifts (wire next : Wire) : Event → List Note → Prop
  | rests
      {event : Event}
      (pendings_eq : next.pendings = wire.pendings)
      (pendingAt_eq : ∀ handler, next.pendingAt handler = wire.pendingAt handler) :
      Shifts wire next event []
  /-- A handler settles the answers to a frame. -/
  | settles
      {handler : Nat}
      {frame : Frame}
      (free : wire.pendingAt handler = [])
      (settled : next.pendingAt handler = (wire.router.handle handler frame).2)
      (kept : ∀ other, other ≠ handler → next.pendingAt other = wire.pendingAt other)
      (perm : next.pendings.Perm ((wire.router.handle handler frame).2 ++ wire.pendings)) :
      Shifts wire next (.read handler) (Note.ofFrame handler frame)
  /-- A handler queues a delivery. -/
  | queues
      {handler : Nat}
      {delivery : Delivery}
      (taken : wire.pendingAt handler = delivery :: next.pendingAt handler)
      (kept : ∀ other, other ≠ handler → next.pendingAt other = wire.pendingAt other)
      (perm : wire.pendings.Perm (delivery :: next.pendings)) :
      Shifts wire next (.queue handler) [.queued delivery]
  /-- A handler passes over a recipient that has no writer. -/
  | drops
      {handler : Nat}
      {delivery : Delivery}
      (gone : wire.isWriting delivery.recipient = false)
      (taken : wire.pendingAt handler = delivery :: next.pendingAt handler)
      (kept : ∀ other, other ≠ handler → next.pendingAt other = wire.pendingAt other)
      (perm : wire.pendings.Perm (delivery :: next.pendings)) :
      Shifts wire next (.queue handler) []

section Shifts

variable {wire : Wire}

theorem pendingAt_of_found
    {handler : Nat}
    {link : Link}
    (found : wire.links[handler]? = some link) :
    wire.pendingAt handler = link.pending := by
  rw [pendingAt, found]
  rfl

theorem pendingAt_change_of_ne
    {handler other : Nat}
    (different : other ≠ handler)
    (changed : Link → Link) :
    (wire.change handler changed).pendingAt other = wire.pendingAt other := by
  rw [pendingAt, getElem?_change, pendingAt]
  cases wire.links[other]? with
  | none => rfl
  | some link => rw [Option.map_some, if_neg different.symm]

theorem pendingAt_change_of_same
    {changed : Link → Link}
    (same : ∀ link, (changed link).pending = link.pending)
    (handler other : Nat) :
    (wire.change handler changed).pendingAt other = wire.pendingAt other := by
  rw [pendingAt, getElem?_change, pendingAt]
  cases wire.links[other]? with
  | none => rfl
  | some link =>
      rw [Option.map_some, Option.elim_some, Option.elim_some]
      split
      · exact same link
      · rfl

theorem pendingAt_change
    {handler : Nat}
    {link : Link}
    (found : wire.links[handler]? = some link)
    (changed : Link → Link) :
    (wire.change handler changed).pendingAt handler = (changed link).pending := by
  rw [pendingAt, getElem?_change, found, Option.map_some, if_pos rfl]
  rfl

theorem shifts_opened
    (wire : Wire)
    {link : Link}
    (free : link.pending = [])
    (event : Event) :
    wire.Shifts (wire.opened link) event [] := by
  refine .rests ?_ ?_
  · rw [pendings, opened, List.flatMap_append, List.flatMap_singleton, free, List.append_nil]
    rfl
  · intro handler
    rw [pendingAt, opened, List.getElem?_append, pendingAt]
    split
    · rfl
    · rename_i beyond
      rw [List.getElem?_eq_none (Nat.le_of_not_lt beyond), List.getElem?_singleton]
      split
      · exact free
      · rfl

theorem shifts_change
    {target : Nat}
    {changed : Link → Link}
    (same : ∀ link, (changed link).pending = link.pending)
    (event : Event) :
    wire.Shifts (wire.change target changed) event [] :=
  .rests (pendings_change_of_same same) (pendingAt_change_of_same same target)

theorem shifts_answered
    {handler : Nat}
    {link : Link}
    {frame : Frame}
    {rest : List UInt8}
    (found : wire.links[handler]? = some link)
    (free : link.pending = []) :
    wire.Shifts (wire.answered handler frame rest) (.read handler) (Note.ofFrame handler frame) := by
  refine .settles ((pendingAt_of_found found).trans free) ?_ ?_ (pendings_answered found free)
  · exact pendingAt_change found _
  · intro other different
    exact pendingAt_change_of_ne different _

theorem shifts_delivered
    {handler : Nat}
    {link : Link}
    {delivery : Delivery}
    {rest : List Delivery}
    (found : wire.links[handler]? = some link)
    (pending_eq : link.pending = delivery :: rest) :
    wire.Shifts (wire.delivered handler delivery rest) (.queue handler) [.queued delivery] := by
  have queued (other : Nat) : (wire.delivered handler delivery rest).pendingAt other =
      (wire.change handler ({ · with pending := rest })).pendingAt other := by
    apply pendingAt_change_of_same
    exact fun _ => rfl
  refine .queues ?_ ?_ (pendings_delivered found pending_eq)
  · rw [queued, pendingAt_change found, pendingAt_of_found found, pending_eq]
  · intro other different
    rw [queued, pendingAt_change_of_ne different]

theorem shifts_dropped
    {handler : Nat}
    {link : Link}
    {delivery : Delivery}
    {rest : List Delivery}
    {changed : Link → Link}
    (found : wire.links[handler]? = some link)
    (pending_eq : link.pending = delivery :: rest)
    (gone : wire.isWriting delivery.recipient = false)
    (taken : ∀ link, (changed link).pending = rest) :
    wire.Shifts (wire.change handler changed) (.queue handler) [] := by
  refine .drops gone ?_ ?_ (pendings_taken found pending_eq (taken link))
  · rw [pendingAt_change found, pendingAt_of_found found, pending_eq, taken]
  · intro other different
    exact pendingAt_change_of_ne different _

theorem exists_shifts
    (wire : Wire)
    (event : Event) :
    ∃ notes, (wire.step event).history = wire.history ++ notes ∧
      wire.Shifts (wire.step event) event notes := by
  have nothing : wire.history = wire.history ++ [] := (List.append_nil _).symm
  cases event with
  | connect => exact ⟨[], nothing, shifts_opened wire rfl _⟩
  | subscribe topic =>
      have free : (Link.asking topic).pending = [] := by
        unfold Link.asking
        split <;> rfl
      exact ⟨[], nothing, shifts_opened wire free _⟩
  | within target event =>
      exact ⟨[], nothing, shifts_change (fun link => (link.stays_step event).pending_eq) _⟩
  | read handler =>
      have reads := wire.reads_read handler
      rw [step]
      generalize wire.read handler = next at reads ⊢
      cases reads with
      | waits => exact ⟨[], nothing, .rests rfl fun _ => rfl⟩
      | ends found faulty isEnd =>
          refine ⟨[], nothing, ?_⟩
          apply shifts_change
          exact fun _ => rfl
      | answers found handling free isRead => exact ⟨_, rfl, shifts_answered found free⟩
  | queue handler =>
      have queues := wire.queues_queue handler
      rw [step]
      generalize wire.queue handler = next at queues ⊢
      cases queues with
      | idles => exact ⟨[], nothing, .rests rfl fun _ => rfl⟩
      | delivers found pending_eq => exact ⟨_, rfl, shifts_delivered found pending_eq⟩
      | drops found pending_eq gone stays =>
          exact ⟨[], nothing, shifts_dropped found pending_eq gone fun _ => rfl⟩
  | remove ended =>
      rw [step, remove]
      split
      · exact ⟨[], nothing, .rests rfl fun _ => rfl⟩
      · exact ⟨[], nothing, .rests rfl fun _ => rfl⟩

/-- An event does one of four things to the fan-outs. -/
theorem shifts_step
    (wire : Wire)
    (event : Event) :
    wire.Shifts (wire.step event) event (wire.notes event) := by
  obtain ⟨added, history_eq, shifts⟩ := wire.exists_shifts event
  have same : wire.notes event = added := by
    rw [notes, history_eq, List.drop_left]
  rw [same]
  exact shifts

theorem history_step
    (wire : Wire)
    (event : Event) :
    (wire.step event).history = wire.history ++ wire.notes event := by
  obtain ⟨added, history_eq, _⟩ := wire.exists_shifts event
  rw [notes, history_eq, List.drop_left]

end Shifts

/-! ## One step of a fan-out -/

/-- A connection is subscribed to a topic and has a writer. -/
def Attends
    (wire : Wire)
    (connection : Nat)
    (topic : String) : Prop :=
  connection ∈ wire.router.subscribers topic ∧ wire.isWriting connection = true

instance (wire : Wire) (connection : Nat) (topic : String) :
    Decidable (wire.Attends connection topic) :=
  inferInstanceAs (Decidable (_ ∧ _))

/-- The handler that an event is a step of. -/
def Event.handler? : Event → Option Nat
  | .read handler | .queue handler => some handler
  | .connect | .subscribe _ | .within _ _ | .remove _ => none

/-- What an event adds to the history if it is a step of a handler. -/
def notesOf
    (wire : Wire)
    (handler : Nat)
    (event : Event) : List Note :=
  if event.handler? = some handler then wire.notes event else []

/-- The messages of a topic for a connection that a handler has still to queue. -/
def owedBy
    (wire : Wire)
    (handler connection : Nat)
    (topic : String) : List (List UInt8) :=
  heard topic (Router.queuedTo connection (wire.pendingAt handler))

/-- The messages of a topic for a connection that any handler has still to queue. -/
def underWay
    (wire : Wire)
    (connection : Nat)
    (topic : String) : List (List UInt8) :=
  heard topic (wire.awaiting connection)

section Steps

variable {wire : Wire} {connection : Nat} {topic : String}

/-- A recipient that is passed over is another connection. -/
theorem Attends.heard_dropped
    (attends : wire.Attends connection topic)
    {delivery : Delivery}
    (gone : wire.isWriting delivery.recipient = false) :
    heard topic (Router.queuedTo connection [delivery]) = [] := by
  have other : delivery.recipient ≠ connection := by
    intro same
    rw [same, attends.2] at gone
    exact absurd gone (by simp)
  rw [Router.queuedTo, List.filter_singleton, decide_eq_false other]
  rfl

theorem heard_queuedTo_cons
    (connection : Nat)
    (topic : String)
    (delivery : Delivery)
    (rest : List Delivery) :
    heard topic (Router.queuedTo connection (delivery :: rest)) =
      heard topic (Router.queuedTo connection [delivery]) ++
        heard topic (Router.queuedTo connection rest) := by
  rw [← List.singleton_append, Router.queuedTo_append, heard_append]

/-- Reading a frame sends nothing. -/
theorem fannedOut_ofFrame
    (connection handler : Nat)
    (topic : String)
    (frame : Frame) :
    fannedOut connection topic (Note.ofFrame handler frame) = [] := by
  rw [fannedOut, Note.sentTo_ofFrame]
  rfl

/-- What a handler sends and still owes is what it owed and what it has read. -/
theorem Attends.owedBy_step
    (attends : wire.Attends connection topic)
    (orderly : wire.Orderly)
    (handler : Nat)
    (event : Event) :
    fannedOut connection topic (wire.notesOf handler event) ++
        (wire.step event).owedBy handler connection topic =
      wire.owedBy handler connection topic ++
        Note.publications topic (wire.notesOf handler event) := by
  have shifts := wire.shifts_step event
  rw [notesOf, owedBy, owedBy]
  generalize wire.step event = next at shifts ⊢
  generalize wire.notes event = notes at shifts ⊢
  cases shifts with
  | rests pendings_eq pendingAt_eq =>
      rw [pendingAt_eq, ite_self]
      exact (List.append_nil _).symm
  | @settles target frame free settled kept perm =>
      by_cases own : target = handler
      · subst own
        obtain ⟨past, reflects⟩ := orderly.reflects
        rw [Event.handler?, if_pos rfl, fannedOut_ofFrame, settled, free, heard_answers reflects attends.1]
        rfl
      · rw [Event.handler?, if_neg (fun same => own (Option.some.inj same)), kept handler (Ne.symm own)]
        exact (List.append_nil _).symm
  | @queues target delivery taken kept perm =>
      by_cases own : target = handler
      · subst own
        rw [Event.handler?, if_pos rfl, fannedOut_queued, taken,
          heard_queuedTo_cons connection topic delivery (next.pendingAt target)]
        exact (List.append_nil _).symm
      · rw [Event.handler?, if_neg (fun same => own (Option.some.inj same)), kept handler (Ne.symm own)]
        exact (List.append_nil _).symm
  | @drops target delivery gone taken kept perm =>
      rw [ite_self]
      by_cases own : target = handler
      · subst own
        rw [taken, heard_queuedTo_cons, attends.heard_dropped gone]
        exact (List.append_nil _).symm
      · rw [kept handler (Ne.symm own)]
        exact (List.append_nil _).symm

/-- What is sent and under way is what was under way and what is published. -/
theorem Attends.underWay_step
    (attends : wire.Attends connection topic)
    (orderly : wire.Orderly)
    (event : Event) :
    (fannedOut connection topic (wire.notes event) ++
        (wire.step event).underWay connection topic).Perm
      (wire.underWay connection topic ++ Note.publications topic (wire.notes event)) := by
  have shifts := wire.shifts_step event
  rw [underWay, awaiting, underWay, awaiting]
  generalize wire.step event = next at shifts ⊢
  generalize wire.notes event = notes at shifts ⊢
  cases shifts with
  | rests pendings_eq pendingAt_eq =>
      rw [pendings_eq]
      exact List.Perm.of_eq (List.append_nil _).symm
  | @settles handler frame free settled kept perm =>
      obtain ⟨past, reflects⟩ := orderly.reflects
      have moved := heard_perm (Router.queuedTo_perm perm connection) topic
      rw [Router.queuedTo_append, heard_append, heard_answers reflects attends.1] at moved
      rw [fannedOut_ofFrame]
      exact moved.trans List.perm_append_comm
  | @queues handler delivery taken kept perm =>
      have moved := heard_perm (Router.queuedTo_perm perm connection) topic
      rw [heard_queuedTo_cons] at moved
      rw [fannedOut_queued]
      exact moved.symm.trans (List.Perm.of_eq (List.append_nil _).symm)
  | @drops handler delivery gone taken kept perm =>
      have moved := heard_perm (Router.queuedTo_perm perm connection) topic
      rw [heard_queuedTo_cons, attends.heard_dropped gone] at moved
      exact moved.symm.trans (List.Perm.of_eq (List.append_nil _).symm)

/-- An event notes at most one publication of a topic. -/
theorem length_publications_notes_le
    (wire : Wire)
    (topic : String)
    (event : Event) :
    (Note.publications topic (wire.notes event)).length ≤ 1 := by
  have shifts := wire.shifts_step event
  generalize wire.notes event = notes at shifts ⊢
  cases shifts with
  | rests pendings_eq pendingAt_eq => exact Nat.zero_le 1
  | @settles handler frame free settled kept perm =>
      rw [Note.ofFrame]
      cases frame.kind with
      | subscribe => exact Nat.zero_le 1
      | publish =>
          rw [Note.publications, List.flatMap_singleton]
          dsimp only
          split
          · exact Nat.le_refl 1
          · exact Nat.zero_le 1
      | message => exact Nat.zero_le 1
      | subscribed => exact Nat.zero_le 1
  | queues taken kept perm => exact Nat.zero_le 1
  | drops gone taken kept perm => exact Nat.zero_le 1

end Steps

/-! ## Runs -/

/-- A property of every event of a run and of the wire at which it happens. -/
def Always (property : Wire → Event → Prop) : Wire → List Event → Prop
  | _, [] => True
  | wire, event :: rest => property wire event ∧ Always property (wire.step event) rest

instance decidableAlways
    (property : Wire → Event → Prop)
    [∀ wire event, Decidable (property wire event)] :
    ∀ wire events, Decidable (Always property wire events)
  | _, [] => .isTrue trivial
  | wire, event :: rest =>
      have := decidableAlways property (wire.step event) rest
      inferInstanceAs (Decidable (_ ∧ _))

/-- A connection stays subscribed to a topic in a run, and has a writer. -/
def Attentive
    (wire : Wire)
    (connection : Nat)
    (topic : String)
    (events : List Event) : Prop :=
  Always (fun wire _ => wire.Attends connection topic) wire events

instance (wire : Wire) (connection : Nat) (topic : String) (events : List Event) :
    Decidable (wire.Attentive connection topic events) :=
  decidableAlways _ wire events

/-- What a run adds to the history. -/
def noted : Wire → List Event → List Note
  | _, [] => []
  | wire, event :: rest => wire.notes event ++ noted (wire.step event) rest

/-- What a handler adds to the history in a run. -/
def notedBy (handler : Nat) : Wire → List Event → List Note
  | _, [] => []
  | wire, event :: rest => wire.notesOf handler event ++ notedBy handler (wire.step event) rest

theorem history_run
    (wire : Wire)
    (events : List Event) :
    (wire.run events).history = wire.history ++ wire.noted events := by
  induction events generalizing wire with
  | nil => exact (List.append_nil _).symm
  | cons event rest inductionHypothesis =>
      change ((wire.step event).run rest).history = _
      rw [inductionHypothesis, history_step, List.append_assoc, noted]

section Runs

variable {wire : Wire} {connection : Nat} {topic : String} {events : List Event}

/-- However the fan-outs interleave, a connection that stays subscribed is sent what each
handler has read, in the order in which the handler has read it. -/
theorem Attentive.owedBy_run
    (attentive : wire.Attentive connection topic events)
    (orderly : wire.Orderly)
    (handler : Nat) :
    fannedOut connection topic (notedBy handler wire events) ++
        (wire.run events).owedBy handler connection topic =
      wire.owedBy handler connection topic ++
        Note.publications topic (notedBy handler wire events) := by
  induction events generalizing wire with
  | nil => exact (List.append_nil _).symm
  | cons event rest inductionHypothesis =>
      obtain ⟨attends, later⟩ := attentive
      have first := attends.owedBy_step orderly handler event
      have last := inductionHypothesis later (orderly.step event)
      change fannedOut connection topic (wire.notesOf handler event ++ _) ++
          ((wire.step event).run rest).owedBy handler connection topic =
        wire.owedBy handler connection topic ++
          Note.publications topic (wire.notesOf handler event ++ _)
      rw [fannedOut_append, publications_append, List.append_assoc, last, ← List.append_assoc,
        first, List.append_assoc]

/-- However the fan-outs interleave, a connection that stays subscribed is sent every
publication once. -/
theorem Attentive.underWay_run
    (attentive : wire.Attentive connection topic events)
    (orderly : wire.Orderly) :
    (fannedOut connection topic (wire.noted events) ++
        (wire.run events).underWay connection topic).Perm
      (wire.underWay connection topic ++ Note.publications topic (wire.noted events)) := by
  induction events generalizing wire with
  | nil => exact List.Perm.of_eq (List.append_nil _).symm
  | cons event rest inductionHypothesis =>
      obtain ⟨attends, later⟩ := attentive
      have first := attends.underWay_step orderly event
      have last := inductionHypothesis later (orderly.step event)
      change (fannedOut connection topic (wire.notes event ++ _) ++
          ((wire.step event).run rest).underWay connection topic).Perm
        (wire.underWay connection topic ++ Note.publications topic (wire.notes event ++ _))
      rw [fannedOut_append, publications_append, List.append_assoc]
      refine (last.append_left _).trans ?_
      rw [← List.append_assoc, ← List.append_assoc]
      exact first.append_right _

end Runs

end Wire
end PreAggregation
