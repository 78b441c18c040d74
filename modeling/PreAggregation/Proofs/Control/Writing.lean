import PreAggregation.Proofs.Control.Service

/-!
# What a broker has to write

A broker answers a frame that it has read by frames that are no longer, so it can write
whatever it queues, whatever bytes its peers send.  The writer of a connection writes all
that is queued to it in its order, and stops only for a peer that has gone.
-/

namespace PreAggregation
namespace Link

/-- What was queued to a connection is written or waits for the writer, all of it can be
written, and the writer goes on as long as the peer is there. -/
structure Writes
    (link : Link)
    (sent : List Frame) : Prop where
  fits : ∀ frame ∈ sent, frame.Fits
  sent_eq : ∃ written, sent = written ++ link.outbox ∧
    link.down.bytes <:+ written.flatMap Frame.spelling
  writing : link.hungUp = false → link.writing = true

section Writes

variable {link : Link} {sent : List Frame}

/-- A connection has not written anything before something is queued to it. -/
theorem writes_nil
    (silent : link.outbox = [])
    (nothing : link.down.bytes = [])
    (writing : link.writing = true) :
    link.Writes [] where
  fits _ member := absurd member List.not_mem_nil
  sent_eq := ⟨[], silent.symm, nothing ▸ List.suffix_refl []⟩
  writing _ := writing

/-- What the handler does with a connection, or the peer with what has arrived, is nothing
to the writer. -/
theorem Writes.congr
    (writes : link.Writes sent)
    {next : Link}
    (outbox_eq : next.outbox = link.outbox)
    (bytes_suffix : next.down.bytes <:+ link.down.bytes)
    (writing_eq : next.writing = link.writing)
    (hungUp_of_hungUp : link.hungUp = true → next.hungUp = true) :
    next.Writes sent where
  fits := writes.fits
  sent_eq := by
    obtain ⟨written, sent_eq, suffix⟩ := writes.sent_eq
    exact ⟨written, outbox_eq ▸ sent_eq, bytes_suffix.trans suffix⟩
  writing kept := by
    rw [writing_eq]
    apply writes.writing
    exact Bool.eq_false_iff.mpr fun gone => absurd (hungUp_of_hungUp gone) (by simp [kept])

theorem Writes.enqueue
    (writes : link.Writes sent)
    {frames : List Frame}
    (fits : ∀ frame ∈ frames, frame.Fits)
    (pending : List Delivery) :
    { link with pending, outbox := link.outbox ++ frames }.Writes (sent ++ frames) where
  fits frame member := by
    rcases List.mem_append.mp member with old | new
    · exact writes.fits frame old
    · exact fits frame new
  sent_eq := by
    obtain ⟨written, sent_eq, suffix⟩ := writes.sent_eq
    exact ⟨written, by rw [sent_eq, List.append_assoc], suffix⟩
  writing := writes.writing

theorem Writes.fits_of_waiting
    (writes : link.Writes sent) :
    ∀ frame ∈ link.outbox, frame.Fits := by
  intro frame waits
  obtain ⟨written, sent_eq, _⟩ := writes.sent_eq
  apply writes.fits
  rw [sent_eq]
  exact List.mem_append_right written waits

/-- A frame that waits has bytes, so the writer writes it. -/
theorem Writes.send_eq
    (writes : link.Writes sent)
    {frame : Frame}
    {rest : List Frame}
    (outbox_eq : link.outbox = frame :: rest)
    (writing : link.writing = true) :
    link.send = { link with down := link.down.write frame.spelling, outbox := rest } := by
  have fits : frame.Fits := by
    apply writes.fits_of_waiting
    rw [outbox_eq]
    exact List.mem_cons_self
  rw [send, outbox_eq]
  dsimp only
  rw [if_pos writing, Frame.encode_eq_ok_iff.mpr ⟨fits, rfl⟩]

theorem Writes.send (writes : link.Writes sent) : link.send.Writes sent := by
  cases outbox_eq : link.outbox with
  | nil =>
      rw [Link.send, outbox_eq]
      exact writes
  | cons frame rest =>
      by_cases writing : link.writing = true
      · rw [writes.send_eq outbox_eq writing]
        obtain ⟨written, sent_eq, suffix⟩ := writes.sent_eq
        refine ⟨writes.fits, ⟨written ++ [frame], ?_, ?_⟩, fun _ => writing⟩
        · rw [sent_eq, outbox_eq, List.append_assoc]
          rfl
        · rw [ByteStream.bytes_write, List.flatMap_append, List.flatMap_singleton]
          exact (List.suffix_append_inj_of_length_eq rfl).mpr ⟨suffix, rfl⟩
      · rw [Link.send, outbox_eq]
        dsimp only
        rw [if_neg writing]
        exact writes

/-- A client takes the bytes that it reads from those that were written first. -/
theorem Writes.take (writes : link.Writes sent) : link.take.Writes sent := by
  rw [Link.take]
  cases link.client with
  | none => exact writes
  | some client =>
      dsimp only
      split
      · split
        · rename_i frame rest isRead
          obtain ⟨bytes, _, arrived_eq⟩ := Frame.read_eq_ok_iff.mp isRead
          refine writes.congr rfl ⟨bytes, ?_⟩ rfl id
          rw [ByteStream.bytes, ByteStream.bytes, arrived_eq, List.append_assoc]
        · exact writes.congr rfl (List.suffix_refl _) rfl id
        · exact writes
      · exact writes

/-- Nothing that happens to a connection stops its writer but a peer that goes. -/
theorem Writes.step
    (writes : link.Writes sent)
    (event : Event) :
    (link.step event).Writes sent := by
  cases event with
  | write bytes =>
      rw [Link.step]
      split
      · exact writes.congr rfl (List.suffix_refl _) rfl id
      · exact writes
  | hangUp => exact writes.congr rfl (List.suffix_refl _) rfl fun _ => rfl
  | carryUp count => exact writes.congr rfl (List.suffix_refl _) rfl id
  | carryDown count =>
      exact writes.congr rfl ((ByteStream.bytes_carry link.down count).symm ▸ List.suffix_refl _)
        rfl id
  | send => exact writes.send
  | stop =>
      rw [Link.step]
      split
      · rename_i gone
        exact ⟨writes.fits, writes.sent_eq, fun kept => absurd (gone.symm.trans kept) (by simp)⟩
      · exact writes
  | take => exact writes.take
  | receive =>
      rw [Link.step, Link.receive]
      split
      · exact writes
      · split
        · exact writes.congr rfl (List.suffix_refl _) rfl id
        · exact writes
        · exact writes

/-- A writer that goes on writes all that waits. -/
theorem Writes.sendAll
    (writes : link.Writes sent)
    (writing : link.writing = true) :
    let later := link.run (List.replicate link.outbox.length .send)
    later.outbox = [] ∧ later.writing = true ∧
      later.down.bytes = link.down.bytes ++ link.outbox.flatMap Frame.spelling := by
  induction outbox_eq : link.outbox generalizing link with
  | nil => exact ⟨outbox_eq, writing, (List.append_nil _).symm⟩
  | cons frame rest inductionHypothesis =>
      have next := writes.send
      rw [writes.send_eq outbox_eq writing] at next
      obtain ⟨empty, still, bytes_eq⟩ := inductionHypothesis next writing rfl
      rw [List.length_cons, List.replicate_succ]
      change (link.send.run _).outbox = [] ∧ (link.send.run _).writing = true ∧
        (link.send.run _).down.bytes = _
      rw [writes.send_eq outbox_eq writing]
      refine ⟨empty, still, bytes_eq.trans ?_⟩
      rw [ByteStream.bytes_write, List.flatMap_cons, List.append_assoc]

end Writes
end Link

namespace Wire

/-- Every connection has a writer for what is queued to it. -/
structure Writing (wire : Wire) : Prop where
  orderly : wire.Orderly
  writes : ∀ {connection : Nat} {link : Link}, wire.links[connection]? = some link →
    link.Writes (Note.sentTo connection wire.history)

section Writing

variable {wire next : Wire} {connection : Nat} {link : Link}

/-! ## Single events -/

theorem Writing.writes_opened
    (isWriting : wire.Writing)
    {new : Link}
    (writes : new.Writes [])
    (found : (wire.opened new).links[connection]? = some link) :
    link.Writes (Note.sentTo connection wire.history) := by
  rw [opened, List.getElem?_append] at found
  split at found
  · exact isWriting.writes found
  · rename_i beyond
    have exist := (List.getElem?_eq_some_iff.mp found).1
    rw [List.length_singleton] at exist
    have same : connection = wire.links.length := by omega
    subst same
    rw [Nat.sub_self] at found
    cases found
    rw [Note.sentTo_eq_nil isWriting.orderly.unregistered.silent]
    exact writes

theorem writes_asking (topic : String) : (Link.asking topic).Writes [] := by
  unfold Link.asking
  split <;> exact Link.writes_nil rfl rfl rfl

theorem Writing.writes_change
    (isWriting : wire.Writing)
    {target : Nat}
    {changed : Link → Link}
    (keeps : ∀ {link sent}, link.Writes sent → (changed link).Writes sent)
    (found : (wire.change target changed).links[connection]? = some link) :
    link.Writes (Note.sentTo connection wire.history) := by
  rw [getElem?_change] at found
  obtain ⟨before, present, rfl⟩ := Option.map_eq_some_iff.mp found
  split
  · exact keeps (isWriting.writes present)
  · exact isWriting.writes present

theorem Writing.writes_read
    (isWriting : wire.Writing)
    {handler : Nat}
    (reads : wire.Reads handler next)
    (found : next.links[connection]? = some link) :
    link.Writes (Note.sentTo connection next.history) := by
  cases reads with
  | waits => exact isWriting.writes found
  | ends reading faulty isEnd =>
      refine isWriting.writes_change ?_ found
      intro link sent writes
      exact writes.congr rfl (List.suffix_refl _) rfl id
  | @answers _ frame rest reading handling free isRead =>
      have same : Note.sentTo connection (wire.answered handler frame rest).history =
          Note.sentTo connection wire.history := by
        change Note.sentTo connection (wire.history ++ Note.ofFrame handler frame) = _
        rw [Note.sentTo_append, Note.sentTo_ofFrame, List.append_nil]
      rw [links_answered] at found
      obtain ⟨before, present, rfl⟩ := Option.map_eq_some_iff.mp found
      rw [same]
      split
      · exact (isWriting.writes present).congr rfl (List.suffix_refl _) rfl id
      · exact isWriting.writes present

/-- What was pending can be written, so it may be queued. -/
theorem Writing.writes_queue
    (isWriting : wire.Writing)
    {handler : Nat}
    (queues : wire.Queues handler next)
    (found : next.links[connection]? = some link) :
    link.Writes (Note.sentTo connection next.history) := by
  cases queues with
  | idles => exact isWriting.writes found
  | @delivers _ delivery rest taking pending_eq =>
      have pending := (pendings_delivered taking pending_eq).mem_iff.mpr List.mem_cons_self
      have fits := (isWriting.orderly.pendings_sound delivery pending).2
      rw [links_delivered] at found
      obtain ⟨before, present, rfl⟩ := Option.map_eq_some_iff.mp found
      change Link.Writes _ (Note.sentTo connection (wire.history ++ [.queued delivery]))
      rw [Note.sentTo_append]
      apply (isWriting.writes present).enqueue
      intro frame member
      rw [Note.sentTo_queued] at member
      split at member
      · rw [List.mem_singleton.mp member]
        exact fits
      · exact absurd member List.not_mem_nil
  | drops taking pending_eq gone stays =>
      refine isWriting.writes_change ?_ found
      intro link sent writes
      exact writes.congr rfl (List.suffix_refl _) rfl id

/-! ## All events -/

theorem writing_empty : empty.Writing where
  orderly := orderly_empty
  writes found := absurd found (by simp [empty])

theorem Writing.step
    (isWriting : wire.Writing)
    (event : Event) :
    (wire.step event).Writing := by
  refine ⟨isWriting.orderly.step event, ?_⟩
  intro connection link found
  cases event with
  | connect => exact isWriting.writes_opened (Link.writes_nil rfl rfl rfl) found
  | subscribe topic => exact isWriting.writes_opened (writes_asking topic) found
  | within target event => exact isWriting.writes_change (fun writes => writes.step event) found
  | read handler => exact isWriting.writes_read (wire.reads_read handler) found
  | queue handler => exact isWriting.writes_queue (wire.queues_queue handler) found
  | remove ended =>
      rw [Wire.step, Wire.remove] at found ⊢
      split at found
      · rename_i handling
        rw [if_pos handling]
        exact isWriting.writes found
      · rename_i stopped
        rw [if_neg stopped]
        exact isWriting.writes found

theorem Writing.run
    (isWriting : wire.Writing)
    (events : List Event) :
    (wire.run events).Writing := by
  induction events generalizing wire with
  | nil => exact isWriting
  | cons event rest inductionHypothesis => exact inductionHypothesis (isWriting.step event)

end Writing

end Wire

theorem Frame.mapM_encode_of_fits
    {frames : List Frame}
    (fits : ∀ frame ∈ frames, frame.Fits) :
    ∃ encodings, frames.mapM encode = .ok encodings ∧
      encodings.flatten = frames.flatMap spelling := by
  induction frames with
  | nil => exact ⟨[], rfl, rfl⟩
  | cons frame rest inductionHypothesis =>
      obtain ⟨first, others⟩ := List.forall_mem_cons.mp fits
      obtain ⟨encodings, encoded, flatten_eq⟩ := inductionHypothesis others
      have spelled := encode_eq_ok_iff.mpr ⟨first, rfl⟩
      refine ⟨frame.spelling :: encodings, ?_, ?_⟩
      · simp [List.mapM_cons, spelled, encoded, bind, Except.bind, pure, Except.pure]
      · rw [List.flatten_cons, flatten_eq, List.flatMap_cons]

namespace Wire

/-- Whatever the peers of a broker do, every frame that is queued has bytes.  Those that are
queued to a connection are written in their order or wait for its writer, which stops only
for a peer that has gone, and otherwise can write all that waits. -/
theorem queues_only_writable (events : List Event) :
    let wire := empty.run events
    (∀ delivery, .queued delivery ∈ wire.history → ∃ bytes, delivery.frame.encode = .ok bytes) ∧
    ∀ connection link, wire.links[connection]? = some link →
      (∀ delivery ∈ link.pending, ∃ bytes, delivery.frame.encode = .ok bytes) ∧
      (∃ written encodings, Note.sentTo connection wire.history = written ++ link.outbox ∧
        written.mapM Frame.encode = .ok encodings ∧ link.down.bytes <:+ encodings.flatten) ∧
      (link.hungUp = false → link.writing = true) ∧
      (link.writing = true →
        let later := link.run (List.replicate link.outbox.length .send)
        ∃ encodings, link.outbox.mapM Frame.encode = .ok encodings ∧ later.outbox = [] ∧
          later.writing = true ∧ later.down.bytes = link.down.bytes ++ encodings.flatten) := by
  intro wire
  have isWriting := writing_empty.run events
  have encodes {frame : Frame} (fits : frame.Fits) : ∃ bytes, frame.encode = .ok bytes :=
    ⟨_, Frame.encode_eq_ok_iff.mpr ⟨fits, rfl⟩⟩
  refine ⟨fun delivery noted => encodes (isWriting.orderly.history_sound _ noted).2, ?_⟩
  intro connection link found
  have writes := isWriting.writes found
  refine ⟨?_, ?_, writes.writing, ?_⟩
  · intro delivery pending
    apply encodes
    apply (isWriting.orderly.pendings_sound delivery ?_).2
    exact List.mem_flatMap.mpr ⟨link, List.mem_of_getElem? found, pending⟩
  · obtain ⟨written, sent_eq, suffix⟩ := writes.sent_eq
    have fits : ∀ frame ∈ written, frame.Fits := fun frame member =>
      writes.fits frame (sent_eq ▸ List.mem_append_left _ member)
    obtain ⟨encodings, encoded, flatten_eq⟩ := Frame.mapM_encode_of_fits fits
    exact ⟨written, encodings, sent_eq, encoded, flatten_eq ▸ suffix⟩
  · intro still later
    obtain ⟨empty, goesOn, bytes_eq⟩ := writes.sendAll still
    obtain ⟨encodings, encoded, flatten_eq⟩ := Frame.mapM_encode_of_fits writes.fits_of_waiting
    exact ⟨encodings, encoded, empty, goesOn, flatten_eq ▸ bytes_eq⟩

/-- A subscription that carries a payload is confirmed without it, a publication waits
behind the confirmation, and both can be written although a third peer has sent a length
that is too large. -/
theorem queues_only_writable_publication :
    let events : List Event := [.connect, .connect, .connect,
      .within 0 (.write [0, 0, 0, 6, 1, 0, 1, 116, 9, 9]), .within 0 (.carryUp 10),
      .read 0, .queue 0,
      .within 2 (.write [255, 255, 255, 255]), .within 2 (.carryUp 4), .read 2,
      .within 1 (.write [0, 0, 0, 5, 2, 0, 1, 116, 7]), .within 1 (.carryUp 9), .read 1, .queue 1]
    let wire := empty.run events
    ∃ link encodings, wire.links[0]? = some link ∧ link.hungUp = false ∧ link.writing = true ∧
      link.outbox = [⟨.subscribed, "t", []⟩, ⟨.message, "t", [7]⟩] ∧
      link.outbox.mapM Frame.encode = .ok encodings ∧
      (link.run [.send, .send]).down.bytes = encodings.flatten := by
  intro events wire
  let subscriber : Link := { outbox := [⟨.subscribed, "t", []⟩, ⟨.message, "t", [7]⟩] }
  have found : wire.links[0]? = some subscriber := by decide +kernel
  obtain ⟨_, _, writing, writable⟩ := (queues_only_writable events).2 0 subscriber found
  have still := writing rfl
  obtain ⟨encodings, encoded, _, _, bytes_eq⟩ := writable still
  exact ⟨subscriber, encodings, found, rfl, still, rfl, encoded, bytes_eq⟩

end Wire
end PreAggregation
