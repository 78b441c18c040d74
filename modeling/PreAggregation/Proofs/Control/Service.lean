import PreAggregation.Proofs.Control.Registration

/-!
# Clients at a broker

Every client that has not given up its connection is served: either its request is on its
way and the broker has nothing for it, or it is registered and no frame for it is lost.
Each step of a handler, a writer, a client or another peer keeps this for all clients.
-/

namespace PreAggregation
namespace Wire

/-- A client that has not given up its connection is either waiting for its request to be
read, or registered. -/
inductive Phase
    (wire : Wire)
    (connection : Nat)
    (topic : String)
    (up : List UInt8) : Prop
  | asks
      (unregistered : wire.Unregistered connection)
      (request : (Client.request topic).encode = .ok up)
  | listens
      {since : List Note}
      (registered : wire.Registered connection topic since)
      (silent : up = [])

/-- What a broker is to a client that has not given up its connection. -/
structure Serves
    (wire : Wire)
    (connection : Nat)
    (link : Link)
    (client : Client) : Prop where
  handling : link.handling = true
  /-- The only answer to a client is the confirmation. -/
  pending_own : ∀ delivery ∈ link.pending, delivery.recipient = connection
  /-- No frame is lost between the queue and the subscription. -/
  carries : ∃ taken flying, link.Carries client taken flying (Note.sentTo connection wire.history)
  phase : wire.Phase connection client.subscription.topic link.up.bytes

/-- A wire without disorder, where every client is served. -/
structure Sound (wire : Wire) : Prop where
  orderly : wire.Orderly
  serves : ∀ {connection link client}, wire.links[connection]? = some link →
    link.client = some client → link.hungUp = false → wire.Serves connection link client

section Steps

variable {wire next : Wire} {connection : Nat} {link : Link} {client : Client} {notes : List Note}

/-- A client stays served when its part of the wire goes on. -/
theorem Serves.advance
    (serves : wire.Serves connection link client)
    (advances : wire.Advances next connection notes)
    {later : Link}
    {laterClient : Client}
    (handling_eq : later.handling = link.handling)
    (less : later.pending ⊆ link.pending)
    (up_eq : later.up.bytes = link.up.bytes)
    (topic_eq : laterClient.subscription.topic = client.subscription.topic)
    (carries : ∃ taken flying, later.Carries laterClient taken flying
      (Note.sentTo connection wire.history ++ Note.sentTo connection notes)) :
    next.Serves connection later laterClient where
  handling := handling_eq.trans serves.handling
  pending_own delivery member := serves.pending_own delivery (less member)
  carries := by
    rw [advances.history_eq, Note.sentTo_append]
    exact carries
  phase := by
    rw [up_eq, topic_eq]
    cases serves.phase with
    | asks unregistered request => exact .asks (unregistered.advance advances) request
    | listens registered silent => exact .listens (registered.advance advances) silent

/-- A client whose connection does not change stays served when nothing is queued to it. -/
theorem Serves.idle
    (serves : wire.Serves connection link client)
    (advances : wire.Advances next connection notes)
    (nothing : Note.sentTo connection notes = []) :
    next.Serves connection link client := by
  apply serves.advance advances rfl (List.Subset.refl _) rfl rfl
  rw [nothing, List.append_nil]
  exact serves.carries

/-! ## Events of the peers -/

/-- Nothing refers to a connection before it is opened. -/
theorem Orderly.unregistered
    (orderly : wire.Orderly) :
    wire.Unregistered wire.links.length where
  notMem topic member :=
    absurd (orderly.lt_of_mem_subscribers member) (Nat.lt_irrefl _)
  silent note member := by
    have exist := orderly.history_sound note member
    cases note with
    | registered other topic => exact decide_eq_false (Nat.ne_of_lt exist)
    | published topic payload => rfl
    | queued delivery => exact decide_eq_false (Nat.ne_of_lt exist.1)
  awaiting_eq := by
    rw [awaiting, Router.queuedTo, List.map_eq_nil_iff, List.filter_eq_nil_iff]
    intro delivery member
    have exist := orderly.pendings_sound delivery member
    simpa using Nat.ne_of_lt exist.1

theorem Sound.serves_opened
    (sound : wire.Sound)
    {new : Link}
    (free : new.pending = [])
    (serves : ∀ {client}, new.client = some client → new.hungUp = false →
      (wire.opened new).Serves wire.links.length new client)
    (found : (wire.opened new).links[connection]? = some link)
    (isClient : link.client = some client)
    (kept : link.hungUp = false) :
    (wire.opened new).Serves connection link client := by
  rw [opened, List.getElem?_append] at found
  split at found
  · have before := sound.serves found isClient kept
    exact before.idle (advances_opened wire free connection) rfl
  · rename_i beyond
    have index : connection - wire.links.length = 0 := by
      obtain ⟨small, _⟩ := List.getElem?_eq_some_iff.mp found
      exact Nat.lt_one_iff.mp small
    have same : connection = wire.links.length := by
      omega
    rw [index] at found
    cases found
    rw [same]
    exact serves isClient kept

theorem asking_cases (topic : String) :
    Link.asking topic = { hungUp := true } ∨
      ∃ bytes, (Client.request topic).encode = .ok bytes ∧ Link.asking topic =
        { up := { travelling := bytes }, client := some (.ofTopic topic) } := by
  unfold Link.asking Client.requestBytes
  cases (Client.request topic).encode with
  | error fault => exact Or.inl rfl
  | ok bytes => exact Or.inr ⟨bytes, rfl, rfl⟩

/-- A client that asks for a topic is served from the start. -/
theorem Sound.serves_subscribe
    (sound : wire.Sound)
    (topic : String)
    (found : (wire.opened (.asking topic)).links[connection]? = some link)
    (isClient : link.client = some client)
    (kept : link.hungUp = false) :
    (wire.opened (.asking topic)).Serves connection link client := by
  rcases asking_cases topic with asking_eq | ⟨bytes, encoded, asking_eq⟩
  · rw [asking_eq] at found ⊢
    refine sound.serves_opened rfl ?_ found isClient kept
    intro client isClient
    exact absurd isClient (by simp)
  · rw [asking_eq] at found ⊢
    refine sound.serves_opened rfl ?_ found isClient kept
    intro client isClient _
    cases isClient
    have unregistered := sound.orderly.unregistered
    have nothing := Note.sentTo_eq_nil unregistered.silent
    refine ⟨rfl, fun _ member => absurd member List.not_mem_nil, ⟨[], [], rfl, nothing, ?_, rfl, rfl,
      rfl, ?_, rfl⟩, .asks (unregistered.advance (advances_opened wire rfl _)) encoded⟩
    · intro frame member
      exact absurd (nothing ▸ member) List.not_mem_nil
    · intro acknowledged
      exact absurd acknowledged (by simp [Client.ofTopic])

/-- What happens between the handler and the client loses nothing. -/
theorem Sound.serves_within
    (sound : wire.Sound)
    {target : Nat}
    {event : Link.Event}
    (found : (wire.change target (·.step event)).links[connection]? = some link)
    (isClient : link.client = some client)
    (kept : link.hungUp = false) :
    (wire.change target (·.step event)).Serves connection link client := by
  have advances : wire.Advances (wire.change target (·.step event)) connection [] :=
    advances_change (fun link => (link.stays_step event).pending_eq) connection
  rw [getElem?_change] at found
  obtain ⟨before, present, rfl⟩ := Option.map_eq_some_iff.mp found
  by_cases own : target = connection
  · rw [if_pos own] at isClient kept ⊢
    have stays := before.stays_step event
    obtain ⟨earlier, wasClient⟩ : ∃ earlier, before.client = some earlier := by
      apply Option.isSome_iff_exists.mp
      rw [← stays.isSome_client_eq, isClient]
      rfl
    have wasKept : before.hungUp = false := by
      cases hungUp : before.hungUp with
      | false => rfl
      | true => exact absurd ((stays.hungUp_of_hungUp hungUp).symm.trans kept) (by simp)
    have serves := sound.serves present wasClient wasKept
    obtain ⟨taken, flying, carries⟩ := serves.carries
    obtain ⟨later, taken, flying, carries, topic_eq⟩ := carries.step event kept
    cases carries.client_eq.symm.trans isClient
    refine serves.advance advances stays.handling_eq (List.Perm.of_eq stays.pending_eq).subset
      (stays.up_eq (by rw [wasClient]; rfl)) topic_eq ⟨taken, flying, ?_⟩
    exact (List.append_nil (Note.sentTo connection wire.history)).symm ▸ carries
  · rw [if_neg own] at isClient kept ⊢
    exact (sound.serves present isClient kept).idle advances rfl

/-! ## Events of the handlers -/

/-- The handler of a client never meets anything but frames. -/
theorem Serves.not_ends
    (serves : wire.Serves connection link client)
    (kept : link.hungUp = false)
    {fault : ReadFault}
    (faulty : (Frame.read link.up.arrived).1 = .error fault) :
    link.ends fault = false := by
  cases fault with
  | incomplete => rw [Link.ends, kept, Bool.false_and]
  | malformed fault =>
      -- What has arrived is the first part of the request, or nothing.
      have whole := Frame.read_append_of_malformed faulty link.up.travelling
      change (Frame.read link.up.bytes).1 = _ at whole
      cases serves.phase with
      | asks unregistered request =>
          obtain ⟨fits, up_eq⟩ := Frame.encode_eq_ok_iff.mp request
          rw [up_eq, ← List.append_nil (Frame.spelling _), fits.read_spelling] at whole
          exact absurd whole (by simp)
      | listens registered silent =>
          rw [silent] at whole
          exact absurd whole (by simp [Frame.read])

/-- The only frame of a client is its request, and by it the client is registered. -/
theorem Serves.answered
    (serves : wire.Serves connection link client)
    (found : wire.links[connection]? = some link)
    (free : link.pending = [])
    {frame : Frame}
    {rest : List UInt8}
    (isRead : Frame.read link.up.arrived = (.ok frame, rest)) :
    (wire.answered connection frame rest).Serves connection
      { link with
        up := { link.up with arrived := rest }
        pending := (wire.router.handle connection frame).2 } client := by
  have whole := Frame.read_append_of_ok isRead link.up.travelling
  change Frame.read link.up.bytes = _ at whole
  cases serves.phase with
  | listens registered silent =>
      rw [silent] at whole
      exact absurd (congrArg Prod.fst whole) (by simp [Frame.read])
  | asks unregistered request =>
      obtain ⟨fits, up_eq⟩ := Frame.encode_eq_ok_iff.mp request
      rw [up_eq, ← List.append_nil (Frame.spelling _), fits.read_spelling] at whole
      obtain ⟨frame_eq, rest_eq⟩ := Prod.mk.inj whole
      cases frame_eq
      refine ⟨serves.handling, ?_, ?_, .listens (unregistered.register found free) rest_eq.symm⟩
      · intro delivery member
        rw [List.mem_singleton.mp member]
      · have same : Note.sentTo connection
            (wire.answered connection (Client.request client.subscription.topic) rest).history =
              Note.sentTo connection wire.history := by
          change Note.sentTo connection (wire.history ++ Note.ofFrame connection _) = _
          rw [Note.sentTo_append, Note.sentTo_ofFrame, List.append_nil]
        obtain ⟨taken, flying, carries⟩ := serves.carries
        rw [same]
        exact ⟨taken, flying, carries.congr rfl rfl rfl rfl rfl⟩

theorem links_answered
    (wire : Wire)
    (handler : Nat)
    (frame : Frame)
    (rest : List UInt8)
    (connection : Nat) :
    (wire.answered handler frame rest).links[connection]? =
      wire.links[connection]?.map fun link =>
        if handler = connection then
          { link with
            up := { link.up with arrived := rest }
            pending := (wire.router.handle handler frame).2 }
        else link :=
  getElem?_change _ _ _ _

theorem Sound.serves_read
    (sound : wire.Sound)
    {handler : Nat}
    (reads : wire.Reads handler next)
    (found : next.links[connection]? = some link)
    (isClient : link.client = some client)
    (kept : link.hungUp = false) :
    next.Serves connection link client := by
  cases reads with
  | waits => exact sound.serves found isClient kept
  | ends reading faulty isEnd =>
      have advances : wire.Advances (wire.change handler ({ · with handling := false }))
          connection [] := by
        apply advances_change
        intro link
        rfl
      rw [getElem?_change] at found
      obtain ⟨before, present, rfl⟩ := Option.map_eq_some_iff.mp found
      by_cases own : handler = connection
      · rw [if_pos own] at isClient kept
        cases (own ▸ reading).symm.trans present
        have goes := (sound.serves present isClient kept).not_ends kept faulty
        exact absurd (goes.symm.trans isEnd) (by simp)
      · rw [if_neg own] at isClient kept ⊢
        exact (sound.serves present isClient kept).idle advances rfl
  | answers reading handling free isRead =>
      rw [links_answered] at found
      obtain ⟨before, present, rfl⟩ := Option.map_eq_some_iff.mp found
      by_cases own : handler = connection
      · subst own
        rw [if_pos rfl] at isClient kept ⊢
        cases reading.symm.trans present
        exact (sound.serves present isClient kept).answered present free isRead
      · rw [if_neg own] at isClient kept ⊢
        exact (sound.serves present isClient kept).idle
          (advances_answered sound.orderly own reading free) (Note.sentTo_ofFrame _ _ _)

/-- A delivery that is queued waits for the writer of its recipient. -/
theorem links_delivered
    (wire : Wire)
    (handler : Nat)
    (delivery : Delivery)
    (rest : List Delivery)
    (connection : Nat) :
    (wire.delivered handler delivery rest).links[connection]? =
      wire.links[connection]?.map fun link =>
        { link with
          pending := if handler = connection then rest else link.pending
          outbox := link.outbox ++ Note.sentTo connection [.queued delivery] } := by
  change ((wire.change handler _).change delivery.recipient _).links[connection]? = _
  rw [getElem?_change, getElem?_change, Option.map_map]
  congr 1
  funext link
  rw [Note.sentTo_queued]
  by_cases own : handler = connection
  · by_cases mine : delivery.recipient = connection
    · simp [own, mine]
    · simp [own, mine]
  · by_cases mine : delivery.recipient = connection
    · simp [own, mine]
    · simp [own, mine]

theorem Sound.serves_queue
    (sound : wire.Sound)
    {handler : Nat}
    (queues : wire.Queues handler next)
    (found : next.links[connection]? = some link)
    (isClient : link.client = some client)
    (kept : link.hungUp = false) :
    next.Serves connection link client := by
  cases queues with
  | idles => exact sound.serves found isClient kept
  | delivers queuing pending_eq =>
      rename_i queuer delivery rest
      rw [links_delivered] at found
      obtain ⟨before, present, rfl⟩ := Option.map_eq_some_iff.mp found
      have serves := sound.serves present isClient kept
      have fits : ∀ frame ∈ Note.sentTo connection [.queued delivery], frame.Fits := by
        intro frame member
        rw [Note.sentTo_queued] at member
        split at member
        · rw [List.mem_singleton.mp member]
          have among := (pendings_delivered queuing pending_eq).mem_iff.mpr List.mem_cons_self
          exact (sound.orderly.pendings_sound delivery among).2
        · exact absurd member List.not_mem_nil
      obtain ⟨taken, flying, carries⟩ := serves.carries
      have enqueued := carries.enqueue fits
      refine serves.advance (advances_delivered queuing pending_eq connection) rfl ?_ rfl rfl
        ⟨taken, flying, enqueued.congr rfl rfl rfl rfl rfl⟩
      by_cases own : handler = connection
      · subst own
        cases queuing.symm.trans present
        dsimp only
        rw [if_pos rfl, pending_eq]
        exact List.subset_cons_self delivery rest
      · dsimp only
        rw [if_neg own]
        exact List.Subset.refl _
  | drops queuing pending_eq gone stays =>
      rename_i queuer delivery rest
      rw [getElem?_change] at found
      obtain ⟨before, present, rfl⟩ := Option.map_eq_some_iff.mp found
      -- A client has a writer, so what is passed over was for another connection.
      have writes (serves : wire.Serves connection before client) :
          delivery.recipient ≠ connection := by
        rintro rfl
        obtain ⟨taken, flying, carries⟩ := serves.carries
        rw [isWriting, present] at gone
        exact absurd (carries.writing.symm.trans gone) (by simp)
      by_cases own : handler = connection
      · subst own
        rw [if_pos rfl] at isClient kept
        have serves := sound.serves present isClient kept
        cases queuing.symm.trans present
        have mine := serves.pending_own delivery (pending_eq ▸ List.mem_cons_self)
        exact absurd mine (writes serves)
      · rw [if_neg own] at isClient kept ⊢
        have serves := sound.serves present isClient kept
        exact serves.idle (advances_dropped queuing pending_eq rfl (writes serves)) rfl

theorem Sound.serves_remove
    (sound : wire.Sound)
    {ended : Nat}
    (found : (wire.remove ended).links[connection]? = some link)
    (isClient : link.client = some client)
    (kept : link.hungUp = false) :
    (wire.remove ended).Serves connection link client := by
  have same : (wire.remove ended).links = wire.links := by
    unfold remove
    split <;> rfl
  rw [same] at found
  have serves := sound.serves found isClient kept
  by_cases own : ended = connection
  · subst own
    have stays : wire.remove ended = wire := by
      rw [remove, found]
      exact if_pos serves.handling
    rw [stays]
    exact serves
  · exact serves.idle (advances_remove sound.orderly own) rfl

/-! ## Runs -/

theorem Sound.step
    (sound : wire.Sound)
    (event : Event) :
    (wire.step event).Sound where
  orderly := sound.orderly.step event
  serves := by
    intro connection link client found isClient kept
    cases event with
    | connect =>
        refine sound.serves_opened rfl ?_ found isClient kept
        intro client isClient
        exact absurd isClient (by simp)
    | subscribe topic => exact sound.serves_subscribe topic found isClient kept
    | within target event => exact sound.serves_within found isClient kept
    | read handler => exact sound.serves_read (wire.reads_read handler) found isClient kept
    | queue handler => exact sound.serves_queue (wire.queues_queue handler) found isClient kept
    | remove ended => exact sound.serves_remove found isClient kept

theorem sound_empty : empty.Sound where
  orderly := orderly_empty
  serves found := absurd found (by simp [empty])

theorem Sound.run
    (sound : wire.Sound)
    (events : List Event) :
    (wire.run events).Sound := by
  induction events generalizing wire with
  | nil => exact sound
  | cons event rest inductionHypothesis => exact inductionHypothesis (sound.step event)

end Steps

end Wire
end PreAggregation
