import PreAggregation.Control.Wire
import PreAggregation.Proofs.Control.Codec

/-!
# Frames on their way to a client

A frame that is queued for a client waits for the writer, travels as bytes, and is read.
At every time the client has read the first of its frames, and it has given out or holds
the payloads of the messages among them.
-/

namespace PreAggregation

/-- The payloads of the messages among some frames. -/
def Frame.messages (frames : List Frame) : List (List UInt8) :=
  (frames.filter (·.kind = .message)).map Frame.payload

theorem Frame.messages_append (first second : List Frame) :
    messages (first ++ second) = messages first ++ messages second := by
  rw [messages, List.filter_append, List.map_append, messages, messages]

namespace Client

variable (client : Client) (frame : Frame)

theorem topic_onFrame : (client.onFrame frame).subscription.topic = client.subscription.topic := by
  unfold onFrame
  cases frame.kind <;> rfl

theorem live_onFrame : (client.onFrame frame).subscription.live = client.subscription.live := by
  unfold onFrame
  cases frame.kind <;> rfl

theorem queue_onFrame : (client.onFrame frame).subscription.queue =
    client.subscription.queue ++ Frame.messages [frame] := by
  obtain ⟨kind, topic, payload⟩ := frame
  cases kind with
  | message => rfl
  | subscribe => exact (List.append_nil _).symm
  | publish => exact (List.append_nil _).symm
  | subscribed => exact (List.append_nil _).symm

end Client

namespace Link

/-- A client has read the first of the frames that were queued for it.  Others are on
their way, and the last ones wait for the writer. -/
structure Carries
    (link : Link)
    (client : Client)
    (taken flying sent : List Frame) : Prop where
  client_eq : link.client = some client
  /-- Every frame is in one place, and they keep their order. -/
  sent_eq : sent = taken ++ flying ++ link.outbox
  fits : ∀ frame ∈ sent, frame.Fits
  bytes_eq : link.down.bytes = flying.flatMap Frame.spelling
  writing : link.writing = true
  live : client.subscription.live = true
  /-- The confirmation is one of the frames that were read. -/
  acknowledged : client.acknowledged = true → taken ≠ []
  /-- The subscription has every message that was read. -/
  held_eq : link.yielded ++ client.subscription.queue = Frame.messages taken

section Carries

variable {link : Link} {client : Client} {taken flying sent : List Frame}

theorem Carries.fits_of_flying
    (carries : link.Carries client taken flying sent)
    {frame : Frame}
    (member : frame ∈ flying) :
    frame.Fits := by
  apply carries.fits
  rw [carries.sent_eq]
  exact List.mem_append_left _ (List.mem_append_right taken member)

/-- What is read from the bytes that have arrived is the frame that was sent first. -/
theorem Carries.flying_of_read
    (carries : link.Carries client taken flying sent)
    {frame : Frame}
    {rest : List UInt8}
    (isRead : Frame.read link.down.arrived = (.ok frame, rest)) :
    ∃ later, flying = frame :: later ∧
      rest ++ link.down.travelling = later.flatMap Frame.spelling := by
  -- With the bytes that have not arrived, what is read first is known.
  have whole := Frame.read_append_of_ok isRead link.down.travelling
  change Frame.read link.down.bytes = _ at whole
  rw [carries.bytes_eq] at whole
  cases flying with
  | nil => exact absurd (congrArg Prod.fst whole) (by simp [Frame.read])
  | cons first later =>
      rw [List.flatMap_cons,
        (carries.fits_of_flying List.mem_cons_self).read_spelling] at whole
      obtain ⟨first_eq, later_eq⟩ := Prod.mk.inj whole
      cases first_eq
      exact ⟨later, rfl, later_eq.symm⟩

/-- The bytes that have arrived are never those of no frame. -/
theorem Carries.not_malformed
    (carries : link.Carries client taken flying sent)
    (fault : FrameFault) :
    (Frame.read link.down.arrived).1 ≠ .error (.malformed fault) := by
  intro isRead
  have whole := Frame.read_append_of_malformed isRead link.down.travelling
  change (Frame.read link.down.bytes).1 = _ at whole
  rw [carries.bytes_eq] at whole
  cases flying with
  | nil => exact absurd whole (by simp [Frame.read])
  | cons first later =>
      rw [List.flatMap_cons,
        (carries.fits_of_flying List.mem_cons_self).read_spelling] at whole
      exact absurd whole (by simp)

theorem Carries.flying_eq_nil
    (carries : link.Carries client taken flying sent)
    (arrived : link.down.bytes = []) :
    flying = [] := by
  apply List.eq_nil_iff_forall_not_mem.mpr
  intro frame member
  have nothing := carries.bytes_eq.symm.trans arrived
  exact frame.spelling_ne_nil (List.flatMap_eq_nil_iff.mp nothing frame member)

/-- What the handler does with a connection moves no frame. -/
theorem Carries.congr
    (carries : link.Carries client taken flying sent)
    {next : Link}
    (client_eq : next.client = link.client)
    (outbox_eq : next.outbox = link.outbox)
    (bytes_eq : next.down.bytes = link.down.bytes)
    (writing_eq : next.writing = link.writing)
    (yielded_eq : next.yielded = link.yielded) :
    next.Carries client taken flying sent where
  client_eq := client_eq.trans carries.client_eq
  sent_eq := outbox_eq ▸ carries.sent_eq
  fits := carries.fits
  bytes_eq := bytes_eq.trans carries.bytes_eq
  writing := writing_eq.trans carries.writing
  live := carries.live
  acknowledged := carries.acknowledged
  held_eq := yielded_eq ▸ carries.held_eq

theorem Carries.enqueue
    (carries : link.Carries client taken flying sent)
    {frames : List Frame}
    (fits : ∀ frame ∈ frames, frame.Fits) :
    { link with outbox := link.outbox ++ frames }.Carries client taken flying (sent ++ frames) where
  client_eq := carries.client_eq
  sent_eq := by
    rw [carries.sent_eq, List.append_assoc]
  fits frame member := by
    rcases List.mem_append.mp member with old | new
    · exact carries.fits frame old
    · exact fits frame new
  bytes_eq := carries.bytes_eq
  writing := carries.writing
  live := carries.live
  acknowledged := carries.acknowledged
  held_eq := carries.held_eq

/-! ## Single events -/

theorem Carries.send
    (carries : link.Carries client taken flying sent)
    {frame : Frame}
    {rest : List Frame}
    (outbox_eq : link.outbox = frame :: rest) :
    link.send.Carries client taken (flying ++ [frame]) sent ∧ link.send.outbox = rest := by
  have fits : frame.Fits := by
    apply carries.fits
    rw [carries.sent_eq, outbox_eq]
    exact List.mem_append_right _ List.mem_cons_self
  have send_eq : link.send =
      { link with down := link.down.write frame.spelling, outbox := rest } := by
    rw [Link.send, outbox_eq]
    dsimp only
    rw [if_pos carries.writing, Frame.encode_eq_ok_iff.mpr ⟨fits, rfl⟩]
  rw [send_eq]
  refine ⟨⟨carries.client_eq, ?_, carries.fits, ?_, carries.writing, carries.live,
    carries.acknowledged, carries.held_eq⟩, rfl⟩
  · rw [carries.sent_eq, outbox_eq]
    simp only [List.append_assoc, List.cons_append, List.nil_append]
  · rw [ByteStream.bytes_write, carries.bytes_eq, List.flatMap_append, List.flatMap_singleton]

theorem Carries.carryDown
    (carries : link.Carries client taken flying sent)
    (count : Nat) :
    (link.step (.carryDown count)).Carries client taken flying sent :=
  carries.congr rfl rfl (ByteStream.bytes_carry link.down count) rfl rfl

theorem Carries.take
    (carries : link.Carries client taken flying sent)
    {frame : Frame}
    {rest : List UInt8}
    (isRead : Frame.read link.down.arrived = (.ok frame, rest)) :
    ∃ later, flying = frame :: later ∧
      link.take.Carries (client.onFrame frame) (taken ++ [frame]) later sent ∧
      link.take.down.travelling = link.down.travelling := by
  obtain ⟨later, flying_eq, bytes_eq⟩ := carries.flying_of_read isRead
  have take_eq : link.take =
      { link with
        down := { link.down with arrived := rest }, client := some (client.onFrame frame) } := by
    rw [Link.take, carries.client_eq]
    dsimp only
    rw [if_pos carries.live, isRead]
  refine ⟨later, flying_eq, ?_⟩
  rw [take_eq]
  refine ⟨⟨rfl, ?_, carries.fits, bytes_eq, carries.writing, ?_, ?_, ?_⟩, rfl⟩
  · rw [carries.sent_eq, flying_eq]
    simp only [List.append_assoc, List.cons_append, List.nil_append]
  · rw [Client.live_onFrame]
    exact carries.live
  · intro _
    exact List.append_ne_nil_of_right_ne_nil taken (List.cons_ne_nil frame [])
  · dsimp only
    rw [Client.queue_onFrame, ← List.append_assoc, carries.held_eq, Frame.messages_append]

theorem Carries.receive
    (carries : link.Carries client taken flying sent) :
    ∃ next, link.receive.Carries next taken flying sent ∧
      next.subscription.topic = client.subscription.topic := by
  have held_eq := carries.held_eq
  cases queue_eq : client.subscription.queue with
  | nil =>
      have receive_eq : link.receive = link := by
        rw [Link.receive, carries.client_eq]
        dsimp only
        rw [Subscription.tryReceive, queue_eq]
        dsimp only
        rw [if_pos carries.live]
      rw [receive_eq]
      exact ⟨client, carries, rfl⟩
  | cons payload rest =>
      have receive_eq : link.receive =
          { link with
            client := some
              { client with subscription := { client.subscription with queue := rest } }
            yielded := link.yielded ++ [payload] } := by
        rw [Link.receive, carries.client_eq]
        dsimp only
        rw [Subscription.tryReceive, queue_eq]
      rw [receive_eq]
      refine ⟨_, ⟨rfl, carries.sent_eq, carries.fits, carries.bytes_eq, carries.writing,
        carries.live, carries.acknowledged, ?_⟩, rfl⟩
      rw [queue_eq] at held_eq
      rw [← held_eq, List.append_assoc]
      rfl

/-- Nothing that happens to a connection loses a frame, unless the peer gives it up. -/
theorem Carries.step
    (carries : link.Carries client taken flying sent)
    (event : Event)
    (kept : (link.step event).hungUp = false) :
    ∃ next taken flying, (link.step event).Carries next taken flying sent ∧
      next.subscription.topic = client.subscription.topic := by
  cases event with
  | write bytes =>
      have isClient : ¬link.client.isNone = true := by
        simp [carries.client_eq]
      rw [Link.step, if_neg isClient]
      exact ⟨client, taken, flying, carries, rfl⟩
  | hangUp => exact absurd kept (by simp [Link.step])
  | carryUp count =>
      exact ⟨client, taken, flying, carries.congr rfl rfl rfl rfl rfl, rfl⟩
  | carryDown count => exact ⟨client, taken, flying, carries.carryDown count, rfl⟩
  | send =>
      cases outbox_eq : link.outbox with
      | nil =>
          have send_eq : link.send = link := by
            rw [Link.send, outbox_eq]
          rw [Link.step, send_eq]
          exact ⟨client, taken, flying, carries, rfl⟩
      | cons frame rest =>
          exact ⟨client, taken, flying ++ [frame], (carries.send outbox_eq).1, rfl⟩
  | stop =>
      by_cases gone : link.hungUp = true
      · rw [Link.step, if_pos gone] at kept
        exact absurd (gone.symm.trans kept) (by simp)
      · rw [Link.step, if_neg gone]
        exact ⟨client, taken, flying, carries, rfl⟩
  | take =>
      obtain ⟨result, rest, isRead⟩ : ∃ result rest, Frame.read link.down.arrived = (result, rest) :=
        ⟨_, _, rfl⟩
      cases result with
      | ok frame =>
          obtain ⟨later, _, isTaken⟩ := carries.take isRead
          exact ⟨_, _, later, isTaken.1, Client.topic_onFrame client frame⟩
      | error fault =>
          cases fault with
          | malformed fault =>
              exact absurd (congrArg Prod.fst isRead) (carries.not_malformed fault)
          | incomplete =>
              have take_eq : link.take = link := by
                rw [Link.take, carries.client_eq]
                dsimp only
                rw [if_pos carries.live, isRead]
              rw [Link.step, take_eq]
              exact ⟨client, taken, flying, carries, rfl⟩
  | receive =>
      obtain ⟨next, received, topic_eq⟩ := carries.receive
      exact ⟨next, taken, flying, received, topic_eq⟩

/-! ## Delivery -/

/-- Whether an event takes frames nearer to the client. -/
def Event.delivers : Event → Bool
  | .send | .carryDown _ | .take => true
  | .write _ | .hangUp | .carryUp _ | .stop | .receive => false

theorem run_append
    (link : Link)
    (first second : List Event) :
    link.run (first ++ second) = (link.run first).run second :=
  List.foldl_append

theorem Carries.sendAll (carries : link.Carries client taken flying sent) :
    ∃ flying,
      (link.run (List.replicate link.outbox.length .send)).Carries client taken flying sent ∧
        (link.run (List.replicate link.outbox.length .send)).outbox = [] := by
  induction outbox_eq : link.outbox generalizing link flying with
  | nil => exact ⟨flying, carries, outbox_eq⟩
  | cons frame rest inductionHypothesis =>
      obtain ⟨sends, rest_eq⟩ := carries.send outbox_eq
      exact inductionHypothesis sends rest_eq

theorem Carries.takeAll
    (carries : link.Carries client taken flying sent)
    (arrived : link.down.travelling = []) :
    ∃ next, (link.run (List.replicate flying.length .take)).Carries next (taken ++ flying) [] sent := by
  induction flying generalizing link client taken with
  | nil =>
      rw [List.append_nil]
      exact ⟨client, carries⟩
  | cons frame rest inductionHypothesis =>
      have isRead : Frame.read link.down.arrived = (.ok frame, rest.flatMap Frame.spelling) := by
        have bytes_eq := carries.bytes_eq
        rw [ByteStream.bytes, arrived, List.append_nil, List.flatMap_cons] at bytes_eq
        rw [bytes_eq, (carries.fits_of_flying List.mem_cons_self).read_spelling]
      obtain ⟨later, later_eq, isTaken, still⟩ := carries.take isRead
      cases later_eq
      obtain ⟨next, rests⟩ := inductionHypothesis isTaken (still.trans arrived)
      rw [List.append_assoc] at rests
      exact ⟨next, rests⟩

/-- All frames of a client can be delivered to it. -/
theorem Carries.deliver (carries : link.Carries client taken flying sent) :
    ∃ events, (∀ event ∈ events, event.delivers = true) ∧
      ∃ next, (link.run events).Carries next sent [] sent := by
  let sending := List.replicate link.outbox.length Event.send
  obtain ⟨flying, sends, outbox_eq⟩ := carries.sendAll
  let travelling := (link.run sending).down.travelling
  have carried := sends.carryDown travelling.length
  obtain ⟨next, takes⟩ := carried.takeAll List.drop_length
  have all_taken : taken ++ flying = sent := by
    rw [sends.sent_eq, outbox_eq, List.append_nil]
  rw [all_taken] at takes
  refine ⟨sending ++ .carryDown travelling.length :: List.replicate flying.length .take, ?_, next, ?_⟩
  · intro event member
    rcases List.mem_append.mp member with among | later
    · rw [List.eq_of_mem_replicate among]
      rfl
    · rcases List.mem_cons.mp later with rfl | among
      · rfl
      · rw [List.eq_of_mem_replicate among]
        rfl
  · rw [run_append]
    exact takes

end Carries

end Link
end PreAggregation
