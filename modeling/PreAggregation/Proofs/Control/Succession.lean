import PreAggregation.Proofs.Control.FanOuts

/-!
# Fan-outs one after another

If no fan-out of a topic begins while another one is under way, all connections that stay
subscribed are sent the publications in the order in which they are read.  This is so
where one connection publishes, because its handler reads nothing while it has messages to
queue.
-/

namespace PreAggregation
namespace Wire

section Serial

variable {wire : Wire} {connection : Nat} {topic : String} {events : List Event}

/-- No message of a topic is still to be queued. -/
def Quiet
    (wire : Wire)
    (topic : String) : Prop :=
  ∀ delivery ∈ wire.pendings, ¬(delivery.frame.kind = .message ∧ delivery.frame.topic = topic)

instance (wire : Wire) (topic : String) : Decidable (wire.Quiet topic) :=
  inferInstanceAs (Decidable (∀ _ ∈ _, _))

/-- A publication of a topic is read only when no message of the topic is still to be
queued. -/
def Serial
    (wire : Wire)
    (topic : String)
    (events : List Event) : Prop :=
  Always (fun wire event => Note.publications topic (wire.notes event) ≠ [] → wire.Quiet topic)
    wire events

instance (wire : Wire) (topic : String) (events : List Event) :
    Decidable (wire.Serial topic events) :=
  decidableAlways _ wire events

theorem Quiet.underWay_eq
    (quiet : wire.Quiet topic)
    (connection : Nat) :
    wire.underWay connection topic = [] := by
  rw [underWay, heard, Frame.messages, List.map_eq_nil_iff, List.filter_eq_nil_iff]
  intro frame member
  rw [List.mem_filter] at member
  obtain ⟨delivery, queued, rfl⟩ := List.mem_map.mp member.1
  have pending := List.mem_of_mem_filter queued
  intro kind
  exact quiet delivery pending ⟨of_decide_eq_true kind, of_decide_eq_true member.2⟩

theorem eq_of_perm_of_length_le_one
    {α : Type}
    {first second : List α}
    (perm : first.Perm second)
    (short : second.length ≤ 1) :
    first = second := by
  match second, short with
  | [], _ => exact perm.eq_nil
  | [only], _ => exact perm.eq_singleton

/-- If no fan-out begins while another one is under way, a connection that stays subscribed
is sent the publications in the order in which they are read. -/
theorem Attentive.underWay_run_of_serial
    (attentive : wire.Attentive connection topic events)
    (orderly : wire.Orderly)
    (serial : wire.Serial topic events)
    (short : (wire.underWay connection topic).length ≤ 1) :
    fannedOut connection topic (wire.noted events) ++
        (wire.run events).underWay connection topic =
      wire.underWay connection topic ++ Note.publications topic (wire.noted events) := by
  induction events generalizing wire with
  | nil => exact (List.append_nil _).symm
  | cons event rest inductionHypothesis =>
      obtain ⟨attends, later⟩ := attentive
      obtain ⟨alone, serialLater⟩ := serial
      have single : (wire.underWay connection topic ++
          Note.publications topic (wire.notes event)).length ≤ 1 := by
        by_cases silent : Note.publications topic (wire.notes event) = []
        · rw [silent, List.append_nil]
          exact short
        · rw [(alone silent).underWay_eq, List.nil_append]
          exact wire.length_publications_notes_le topic event
      have first := eq_of_perm_of_length_le_one (attends.underWay_step orderly event) single
      have remaining : ((wire.step event).underWay connection topic).length ≤ 1 := by
        rw [← first, List.length_append] at single
        omega
      have last := inductionHypothesis later (orderly.step event) serialLater remaining
      change fannedOut connection topic (wire.notes event ++ _) ++
          ((wire.step event).run rest).underWay connection topic =
        wire.underWay connection topic ++ Note.publications topic (wire.notes event ++ _)
      rw [fannedOut_append, publications_append, List.append_assoc, last, ← List.append_assoc,
        first, List.append_assoc]

end Serial

/-! ## One publisher -/

/-- All publications of a topic in a run are read by one handler. -/
def Sole
    (wire : Wire)
    (source : Nat)
    (topic : String)
    (events : List Event) : Prop :=
  Always (fun wire event =>
    event.handler? ≠ some source → Note.publications topic (wire.notes event) = []) wire events

instance (wire : Wire) (source : Nat) (topic : String) (events : List Event) :
    Decidable (wire.Sole source topic events) :=
  decidableAlways _ wire events

/-- The messages of a topic that are still to be queued are at one handler. -/
def Confined
    (wire : Wire)
    (source : Nat)
    (topic : String) : Prop :=
  ∀ handler, handler ≠ source → ∀ delivery ∈ wire.pendingAt handler,
    ¬(delivery.frame.kind = .message ∧ delivery.frame.topic = topic)

section Sole

variable {wire : Wire} {source : Nat} {topic : String}

theorem mem_pendings_iff
    (wire : Wire)
    (delivery : Delivery) :
    delivery ∈ wire.pendings ↔ ∃ handler, delivery ∈ wire.pendingAt handler := by
  rw [pendings, List.mem_flatMap]
  constructor
  · rintro ⟨link, among, member⟩
    obtain ⟨handler, found⟩ := List.mem_iff_getElem?.mp among
    exact ⟨handler, (pendingAt_of_found found).symm ▸ member⟩
  · rintro ⟨handler, member⟩
    cases found : wire.links[handler]? with
    | none =>
        rw [pendingAt, found] at member
        exact absurd member List.not_mem_nil
    | some link =>
        rw [pendingAt_of_found found] at member
        exact ⟨link, List.mem_of_getElem? found, member⟩

theorem Quiet.confined
    (quiet : wire.Quiet topic)
    (source : Nat) :
    wire.Confined source topic := fun handler _ delivery member =>
  quiet delivery ((wire.mem_pendings_iff delivery).mpr ⟨handler, member⟩)

theorem Confined.quiet
    (confined : wire.Confined source topic)
    (free : wire.pendingAt source = []) :
    wire.Quiet topic := by
  intro delivery member
  obtain ⟨handler, pending⟩ := (wire.mem_pendings_iff delivery).mp member
  by_cases own : handler = source
  · rw [own, free] at pending
    exact absurd pending List.not_mem_nil
  · exact confined handler own delivery pending

/-- Only a publication of a topic is answered by its messages. -/
theorem not_message_of_silent
    {router : Router}
    {sender : Nat}
    {frame : Frame}
    (silent : Note.publications topic (Note.ofFrame sender frame) = [])
    {delivery : Delivery}
    (member : delivery ∈ (router.handle sender frame).2) :
    ¬(delivery.frame.kind = .message ∧ delivery.frame.topic = topic) := by
  rintro ⟨kind_eq, topic_eq⟩
  unfold Router.handle at member
  unfold Note.ofFrame at silent
  cases kind : frame.kind with
  | subscribe =>
      rw [kind, List.mem_singleton] at member
      rw [member] at kind_eq
      exact absurd kind_eq (by simp)
  | publish =>
      rw [kind] at member silent
      obtain ⟨recipient, _, rfl⟩ := List.mem_map.mp member
      simp [Note.publications, show frame.topic = topic from topic_eq] at silent
  | message =>
      rw [kind] at member
      exact absurd member List.not_mem_nil
  | subscribed =>
      rw [kind] at member
      exact absurd member List.not_mem_nil

/-- What a handler has to queue behind an event it had to queue before, or it answers a
frame that was read. -/
theorem Shifts.mem_pendingAt
    {next : Wire}
    {event : Event}
    {notes : List Note}
    (shifts : wire.Shifts next event notes)
    {handler : Nat}
    {delivery : Delivery}
    (member : delivery ∈ next.pendingAt handler) :
    delivery ∈ wire.pendingAt handler ∨
      ∃ frame, event = .read handler ∧ notes = Note.ofFrame handler frame ∧
        delivery ∈ (wire.router.handle handler frame).2 := by
  cases shifts with
  | rests pendings_eq pendingAt_eq => exact .inl (pendingAt_eq handler ▸ member)
  | @settles target frame free settled kept perm =>
      by_cases own : handler = target
      · subst own
        exact .inr ⟨frame, rfl, rfl, settled ▸ member⟩
      · exact .inl (kept handler own ▸ member)
  | @queues target queued taken kept perm =>
      by_cases own : handler = target
      · subst own
        exact .inl (taken ▸ List.mem_cons_of_mem queued member)
      · exact .inl (kept handler own ▸ member)
  | @drops target dropped gone taken kept perm =>
      by_cases own : handler = target
      · subst own
        exact .inl (taken ▸ List.mem_cons_of_mem dropped member)
      · exact .inl (kept handler own ▸ member)

theorem Confined.step
    (confined : wire.Confined source topic)
    {event : Event}
    (sole : event.handler? ≠ some source → Note.publications topic (wire.notes event) = []) :
    (wire.step event).Confined source topic := by
  intro handler other delivery member
  rcases (wire.shifts_step event).mem_pendingAt member with old | ⟨frame, rfl, notes_eq, answer⟩
  · exact confined handler other delivery old
  · have silent := sole fun same => other (Option.some.inj same)
    rw [notes_eq] at silent
    exact not_message_of_silent silent answer

/-- A handler that reads a publication has nothing left to queue. -/
theorem Confined.quiet_of_publication
    (confined : wire.Confined source topic)
    {event : Event}
    (sole : event.handler? ≠ some source → Note.publications topic (wire.notes event) = [])
    (publishes : Note.publications topic (wire.notes event) ≠ []) :
    wire.Quiet topic := by
  have own : event.handler? = some source := by
    by_contra other
    exact publishes (sole other)
  have shifts := wire.shifts_step event
  generalize wire.notes event = notes at shifts publishes
  cases shifts with
  | rests pendings_eq pendingAt_eq => exact absurd rfl publishes
  | @settles target frame free settled kept perm =>
      rw [Option.some.inj own] at free
      exact confined.quiet free
  | queues taken kept perm => exact absurd rfl publishes
  | drops gone taken kept perm => exact absurd rfl publishes

theorem Confined.serial
    (confined : wire.Confined source topic)
    {events : List Event}
    (sole : wire.Sole source topic events) :
    wire.Serial topic events := by
  induction events generalizing wire with
  | nil => exact trivial
  | cons event rest inductionHypothesis =>
      obtain ⟨first, later⟩ := sole
      exact ⟨confined.quiet_of_publication first, inductionHypothesis (confined.step first) later⟩

/-- The fan-outs of one handler do not overlap. -/
theorem Sole.serial
    {events : List Event}
    (sole : wire.Sole source topic events)
    (quiet : wire.Quiet topic) :
    wire.Serial topic events :=
  (quiet.confined source).serial sole

end Sole

end Wire
end PreAggregation
