import PreAggregation.Proofs.Control.Service

/-!
# The handshake of a subscription

A client whose subscription is confirmed is registered, and it has had and will have every
message that was fanned out to it since, in order and once.  This is so however the steps
of the handlers, the writers, the client and all other peers interleave.
-/

namespace PreAggregation

/-! ## Confirmed clients -/

namespace Link

/-- A client stays the same client, and what is confirmed or given up stays so. -/
structure Persists (link next : Link) : Prop where
  client_of : ∀ client, link.client = some client → ∃ later, next.client = some later ∧
    later.subscription.topic = client.subscription.topic ∧
    (client.acknowledged = true → later.acknowledged = true)
  hungUp_of_hungUp : link.hungUp = true → next.hungUp = true

theorem Persists.of_eq
    {link next : Link}
    (client_eq : next.client = link.client)
    (hungUp_eq : next.hungUp = link.hungUp) :
    link.Persists next where
  client_of client isClient := ⟨client, client_eq.trans isClient, rfl, id⟩
  hungUp_of_hungUp := hungUp_eq.trans

theorem Persists.trans
    {link next final : Link}
    (first : link.Persists next)
    (second : next.Persists final) :
    link.Persists final where
  client_of client isClient := by
    obtain ⟨later, isLater, topic_eq, stays⟩ := first.client_of client isClient
    obtain ⟨last, isLast, same, remains⟩ := second.client_of later isLater
    exact ⟨last, isLast, same.trans topic_eq, fun acknowledged => remains (stays acknowledged)⟩
  hungUp_of_hungUp hungUp := second.hungUp_of_hungUp (first.hungUp_of_hungUp hungUp)

theorem persists_take (link : Link) : link.Persists link.take where
  client_of client isClient := by
    rw [take, isClient]
    dsimp only
    split
    · split
      · rename_i frame rest _
        refine ⟨client.onFrame frame, rfl, client.topic_onFrame frame, ?_⟩
        intro acknowledged
        unfold Client.onFrame
        cases frame.kind with
        | subscribed => simp [acknowledged]
        | message => exact acknowledged
        | subscribe => exact acknowledged
        | publish => exact acknowledged
      · exact ⟨_, rfl, rfl, id⟩
      · exact ⟨client, isClient, rfl, id⟩
    · exact ⟨client, isClient, rfl, id⟩
  hungUp_of_hungUp := (link.stays_step .take).hungUp_of_hungUp

theorem persists_receive (link : Link) : link.Persists link.receive where
  client_of client isClient := by
    rw [receive, isClient]
    dsimp only
    split
    · rename_i payload subscription received
      refine ⟨_, rfl, ?_, id⟩
      unfold Subscription.tryReceive at received
      split at received
      · cases received
        rfl
      · split at received
        · cases received
        · cases received
    · exact ⟨client, isClient, rfl, id⟩
    · exact ⟨client, isClient, rfl, id⟩
  hungUp_of_hungUp := (link.stays_step .receive).hungUp_of_hungUp

theorem persists_step
    (link : Link)
    (event : Event) :
    link.Persists (link.step event) := by
  cases event with
  | write bytes =>
      rw [step]
      split <;> exact .of_eq rfl rfl
  | hangUp => exact ⟨fun client isClient => ⟨client, isClient, rfl, id⟩, fun _ => rfl⟩
  | carryUp count => exact .of_eq rfl rfl
  | carryDown count => exact .of_eq rfl rfl
  | send =>
      rw [step, send]
      split
      · exact .of_eq rfl rfl
      · split
        · split <;> exact .of_eq rfl rfl
        · exact .of_eq rfl rfl
  | stop =>
      rw [step]
      split <;> exact .of_eq rfl rfl
  | take => exact link.persists_take
  | receive => exact link.persists_receive

end Link

namespace Wire

/-- No event takes a connection away or replaces its client. -/
theorem persists_step
    {wire : Wire}
    {connection : Nat}
    {link : Link}
    (found : wire.links[connection]? = some link)
    (event : Event) :
    ∃ next, (wire.step event).links[connection]? = some next ∧ link.Persists next := by
  have changes {target : Nat} {changed : Link → Link}
      (persists : link.Persists (changed link)) :
      ∃ next, (wire.change target changed).links[connection]? = some next ∧ link.Persists next := by
    rw [getElem?_change, found]
    refine ⟨_, rfl, ?_⟩
    split
    · exact persists
    · exact .of_eq rfl rfl
  have opens (new : Link) :
      ∃ next, (wire.opened new).links[connection]? = some next ∧ link.Persists next := by
    refine ⟨link, ?_, .of_eq rfl rfl⟩
    rw [opened, List.getElem?_append_left (List.getElem?_eq_some_iff.mp found).1, found]
  cases event with
  | connect => exact opens _
  | subscribe topic => exact opens _
  | within target event => exact changes (link.persists_step event)
  | read handler =>
      have reads := wire.reads_read handler
      rw [step]
      generalize wire.read handler = next at reads ⊢
      cases reads with
      | waits => exact ⟨link, found, .of_eq rfl rfl⟩
      | ends reading faulty isEnd => exact changes (.of_eq rfl rfl)
      | answers reading handling free isRead => exact changes (.of_eq rfl rfl)
  | queue handler =>
      have queues := wire.queues_queue handler
      rw [step]
      generalize wire.queue handler = next at queues ⊢
      cases queues with
      | idles => exact ⟨link, found, .of_eq rfl rfl⟩
      | delivers queuing pending_eq =>
          rw [links_delivered, found]
          exact ⟨_, rfl, .of_eq rfl rfl⟩
      | drops queuing pending_eq gone stays => exact changes (.of_eq rfl rfl)
  | remove ended =>
      rw [step, remove]
      split
      · exact ⟨link, found, .of_eq rfl rfl⟩
      · exact ⟨link, found, .of_eq rfl rfl⟩

theorem persists_run
    {wire : Wire}
    {connection : Nat}
    {link : Link}
    (found : wire.links[connection]? = some link)
    (events : List Event) :
    ∃ next, (wire.run events).links[connection]? = some next ∧ link.Persists next := by
  induction events generalizing wire link with
  | nil => exact ⟨link, found, .of_eq rfl rfl⟩
  | cons event rest inductionHypothesis =>
      obtain ⟨next, present, persists⟩ := persists_step found event
      obtain ⟨final, last, still⟩ := inductionHypothesis present
      exact ⟨final, last, persists.trans still⟩

theorem run_append
    (wire : Wire)
    (first second : List Event) :
    wire.run (first ++ second) = (wire.run first).run second :=
  List.foldl_append

theorem run_within
    (wire : Wire)
    (connection : Nat)
    (events : List Link.Event) :
    wire.run (events.map (.within connection)) = wire.change connection (·.run events) := by
  induction events generalizing wire with
  | nil =>
      change wire = { wire with links := wire.links.modify connection id }
      rw [List.modify_id]
  | cons event rest inductionHypothesis =>
      change (wire.change connection (·.step event)).run (rest.map (.within connection)) = _
      rw [inductionHypothesis, change, change, List.modify_modify_eq]
      rfl

/-! ## Subscriptions -/

/-- The payloads of a topic that are fanned out to a connection. -/
def fannedOut
    (connection : Nat)
    (topic : String)
    (notes : List Note) : List (List UInt8) :=
  Frame.messages ((Note.sentTo connection notes).filter (·.topic = topic))

/-- What the subscription of a client to a topic has of what is noted since the connection
was registered. -/
structure Keeps
    (wire : Wire)
    (connection : Nat)
    (topic : String)
    (link : Link)
    (client : Client)
    (since : List Note) : Prop where
  topic_eq : client.subscription.topic = topic
  live : client.subscription.live = true
  /-- The connection is registered for the topic, once, and for no other topic. -/
  mem_iff : ∀ other, connection ∈ wire.router.subscribers other ↔ other = topic
  nodup : (wire.router.subscribers topic).Nodup
  /-- Nothing is noted about the connection before it is registered. -/
  history_eq : ∃ before, wire.history = before ++ .registered connection topic :: since ∧
    ∀ note ∈ before, note.concerns connection = false
  /-- What was yielded and is held are the first payloads that were fanned out. -/
  held_prefix : link.yielded ++ client.subscription.queue <+: fannedOut connection topic since
  /-- They are all when no frame is on its way. -/
  held_eq : link.outbox = [] → link.down.bytes = [] →
    link.yielded ++ client.subscription.queue = fannedOut connection topic since
  /-- Each publication is fanned out once, or its message is pending at the handler. -/
  publications_perm : (Note.publications topic since).Perm
    (fannedOut connection topic since ++ Frame.messages (wire.awaiting connection))
  /-- The frames that are on their way can be delivered. -/
  deliver : ∃ deliveries : List Link.Event, (∀ event ∈ deliveries, event.delivers = true) ∧
    ∃ final last, (wire.run (deliveries.map (.within connection))).links[connection]? = some final ∧
      (wire.run (deliveries.map (.within connection))).history = wire.history ∧
      final.client = some last ∧
      final.yielded ++ last.subscription.queue = fannedOut connection topic since

/-- A served client that is confirmed is registered, and has the first of its messages. -/
theorem Sound.keeps
    {wire : Wire}
    (sound : wire.Sound)
    {connection : Nat}
    {link : Link}
    {client : Client}
    (found : wire.links[connection]? = some link)
    (isClient : link.client = some client)
    (kept : link.hungUp = false)
    (acknowledged : client.acknowledged = true) :
    ∃ since, wire.Keeps connection client.subscription.topic link client since := by
  have serves := sound.serves found isClient kept
  obtain ⟨taken, flying, carries⟩ := serves.carries
  cases serves.phase with
  | asks unregistered request =>
      -- Nothing was sent, so there is no confirmation.
      have sent_eq := carries.sent_eq
      rw [Note.sentTo_eq_nil unregistered.silent, List.append_assoc] at sent_eq
      exact absurd (List.append_eq_nil_iff.mp sent_eq.symm).1 (carries.acknowledged acknowledged)
  | listens registered silent =>
      rename_i since
      have fannedOut_eq : fannedOut connection client.subscription.topic since =
          Frame.messages (Note.sentTo connection wire.history) := by
        rw [fannedOut, registered.sentTo_history, List.filter_eq_self.mpr]
        intro frame member
        exact decide_eq_true (registered.topic_eq frame (List.mem_append_left _ member))
      have split : Frame.messages (Note.sentTo connection wire.history) =
          (link.yielded ++ client.subscription.queue) ++ Frame.messages (flying ++ link.outbox) := by
        rw [carries.sent_eq, List.append_assoc, Frame.messages_append, carries.held_eq]
      obtain ⟨past, reflects⟩ := sound.orderly.reflects
      refine ⟨since, rfl, carries.live, registered.mem_iff, reflects.nodup_subscribers _,
        registered.history_eq, ?_, ?_, ?_, ?_⟩
      · rw [fannedOut_eq, split]
        exact List.prefix_append _ _
      · intro written delivered
        rw [fannedOut_eq, split, carries.flying_eq_nil delivered, written]
        exact (List.append_nil _).symm
      · rw [fannedOut_eq, registered.sentTo_history, ← Frame.messages_append]
        exact registered.published_perm
      · obtain ⟨deliveries, deliver, next, carries⟩ := carries.deliver
        refine ⟨deliveries, deliver, link.run deliveries, next, ?_, ?_, carries.client_eq, ?_⟩
        · rw [run_within, getElem?_change, found, Option.map_some, if_pos rfl]
        · rw [run_within]
          rfl
        · rw [fannedOut_eq]
          exact carries.held_eq

/-- A client that asks for a topic has the topic until it gives up the connection. -/
theorem topic_of_subscribe
    {wire : Wire}
    {topic : String}
    {events : List Event}
    {link : Link}
    {client : Client}
    (found : ((wire.step (.subscribe topic)).run events).links[wire.links.length]? = some link)
    (isClient : link.client = some client)
    (kept : link.hungUp = false) :
    client.subscription.topic = topic := by
  have new : (wire.step (.subscribe topic)).links[wire.links.length]? = some (.asking topic) := by
    rw [step, opened, List.getElem?_concat_length]
  obtain ⟨next, present, persists⟩ := persists_run new events
  cases present.symm.trans found
  rcases asking_cases topic with asking_eq | ⟨bytes, _, asking_eq⟩
  · have gone := persists.hungUp_of_hungUp (by rw [asking_eq])
    exact absurd (gone.symm.trans kept) (by simp)
  · obtain ⟨last, isLast, topic_eq, _⟩ :=
      persists.client_of (.ofTopic topic) (by rw [asking_eq])
    cases isLast.symm.trans isClient
    exact topic_eq

/-- From when the subscription to a topic is confirmed, and so returned, it has in order and
once what is fanned out to its connection since the registration, until it is given up. -/
theorem handshake_loses_nothing
    (earlier : List Event)
    (topic : String)
    (events later : List Event)
    {link final : Link}
    {client : Client}
    (found : (empty.run (earlier ++ .subscribe topic :: events)).links[
      (empty.run earlier).links.length]? = some link)
    (isClient : link.client = some client)
    (acknowledged : client.acknowledged = true)
    (present : (empty.run (earlier ++ .subscribe topic :: (events ++ later))).links[
      (empty.run earlier).links.length]? = some final)
    (kept : final.hungUp = false) :
    ∃ last since, final.client = some last ∧
      (empty.run (earlier ++ .subscribe topic :: (events ++ later))).Keeps
        (empty.run earlier).links.length topic final last since := by
  obtain ⟨next, still, persists⟩ := persists_run found later
  rw [← run_append, List.append_assoc, List.cons_append] at still
  cases still.symm.trans present
  obtain ⟨last, isLast, _, stays⟩ := persists.client_of client isClient
  have sound := sound_empty.run (earlier ++ .subscribe topic :: (events ++ later))
  obtain ⟨since, keeps⟩ := sound.keeps present isLast kept (stays acknowledged)
  rw [run_append] at present
  have topic_eq := topic_of_subscribe present isLast kept
  rw [topic_eq] at keeps
  exact ⟨last, since, isLast, keeps⟩

/-- A message that is queued before the confirmation is kept, and a later one is on its
way. -/
theorem handshake_loses_nothing_early_message :
    let publication (payload : UInt8) : List UInt8 := [0, 0, 0, 5, 2, 0, 1, 116, payload]
    let earlier : List Event := [.connect,
      .within 0 (.write (publication 7 ++ publication 8)), .within 0 (.carryUp 18)]
    let events : List Event := [.within 1 (.carryUp 8), .read 1, .read 0, .queue 0, .queue 1,
      .within 1 .send, .within 1 (.carryDown 9), .within 1 .take,
      .within 1 .send, .within 1 (.carryDown 8), .within 1 .take]
    let later : List Event := [.within 1 .receive, .read 0, .queue 0]
    let wire := empty.run (earlier ++ .subscribe "t" :: (events ++ later))
    ∃ link client since, wire.links[1]? = some link ∧ link.client = some client ∧
      link.yielded = [[7]] ∧ client.subscription.queue = [] ∧ link.outbox = [⟨.message, "t", [8]⟩] ∧
      wire.Keeps 1 "t" link client since := by
  intro publication earlier events later wire
  have found : (empty.run (earlier ++ .subscribe "t" :: events)).links[
      (empty.run earlier).links.length]? =
        some { client := some ⟨true, ⟨"t", [[7]], true⟩⟩ } := by
    decide +kernel
  have present : wire.links[(empty.run earlier).links.length]? =
      some { client := some ⟨true, ⟨"t", [], true⟩⟩, outbox := [⟨.message, "t", [8]⟩], yielded := [[7]] } := by
    decide +kernel
  obtain ⟨last, since, isLast, keeps⟩ :=
    handshake_loses_nothing earlier "t" events later found rfl rfl present rfl
  cases isLast
  exact ⟨_, _, since, present, rfl, rfl, rfl, rfl, keeps⟩

end Wire
end PreAggregation
