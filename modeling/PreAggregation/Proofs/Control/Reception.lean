import PreAggregation.Proofs.Control.Confirmation

/-!
# What a client receives

A client hands out the payloads of all messages that a broker sends, those before the
confirmation too, until no further frame can be read.  All that it has not yet handed out
is held by the subscription or still to be read.  No event changes that, so nothing is lost
or repeated between the loop that waits for the confirmation and the reader behind it.
-/

namespace PreAggregation
namespace Reception

variable {σ τ : Type} (reader : ByteReader σ)

/-! ## What is still to be handed out -/

/-- The payloads that are not handed out: those that are held, and those among the frames
that are still to be read. -/
def owed (reader : ByteReader σ) (reception : Reception σ) : List (List UInt8) :=
  reception.subscription.queue ++
    if reception.subscription.live then
      Frame.messages (Frame.readAll (reader.ahead reception.source)).frames
    else []

/-- The messages before the confirmation are held, and those behind it are still to be
read. -/
theorem owed_of_confirm
    {ending : TransportFault}
    {topic : String}
    {source : σ}
    {reception : Reception σ}
    (confirmed : confirm reader ending (.ofTopic topic) source = .ok reception) :
    reception.owed reader = Frame.messages (Frame.readAll (reader.ahead source)).frames ∧
      reception.subscription.topic = topic := by
  rcases confirm_cases reader ending (.ofTopic topic) source with
    ⟨ack, other, isOther, confirms, late_eq, subscription_eq⟩ | ⟨fault, failed, -⟩
  · cases isOther.symm.trans confirmed
    have other : ack.kind ≠ .message := by simp [confirms.1]
    refine ⟨?_, congrArg Subscription.topic subscription_eq⟩
    change Frame.late topic _ = _ at late_eq
    rw [← Frame.early_append_late topic (Frame.readAll (reader.ahead source)).frames,
      Frame.messages_append, late_eq, Frame.messages_cons_of_not_message other, owed,
      subscription_eq]
    rfl
  · exact absurd (failed.symm.trans confirmed) (by simp)

/-- How a receiver is answered to whom some payloads are owed, and what is owed behind it. -/
inductive Answers (topic : String) :
    List (List UInt8) → Except Error (Option (List UInt8)) → List (List UInt8) → Prop
  | payload
      (payload : List UInt8)
      (later : List (List UInt8)) :
      Answers topic (payload :: later) (.ok (some payload)) later
  /-- Nothing has arrived yet. -/
  | nothing
      (owed : List (List UInt8)) :
      Answers topic owed (.ok none) owed
  | closed :
      Answers topic [] (.error ⟨.subscriptionClosed topic, []⟩) []

theorem topic_read (reception : Reception σ) :
    (reception.read reader).subscription.topic = reception.subscription.topic := by
  unfold read
  split
  · split
    · split <;> rfl
    · rfl
  · rfl

/-- A frame that is read is held if it is a message. -/
theorem owed_read (reception : Reception σ) :
    (reception.read reader).owed reader = reception.owed reader := by
  unfold read
  split
  · rename_i live
    split
    · rename_i frame source isRead
      have frames_eq := ByteReader.readAll_ahead_of_ok (congrArg Prod.fst isRead)
      rw [isRead] at frames_eq
      split
      · rename_i isMessage
        rw [owed, owed, if_pos live, frames_eq, Frame.messages_cons_of_message isMessage,
          List.append_cons]
        exact congrArg _ (if_pos live)
      · rename_i other
        rw [owed, owed, if_pos live, if_pos live, frames_eq,
          Frame.messages_cons_of_not_message other]
    · rename_i fault source stopped
      rw [owed, owed, if_pos live, ByteReader.readAll_ahead_of_error (congrArg Prod.fst stopped)]
      rfl
  · rfl

section Answers

variable {reception : Reception σ}

theorem answers_of_payload
    {payload : List UInt8}
    {next : Subscription}
    (received : reception.subscription.tryReceive = .ok (some payload, next)) :
    Answers reception.subscription.topic (reception.owed reader) (.ok (some payload))
        (owed reader { reception with subscription := next }) ∧
      next.topic = reception.subscription.topic := by
  unfold Subscription.tryReceive at received
  split at received
  · rename_i first rest queue_eq
    cases received
    refine ⟨?_, rfl⟩
    rw [owed, queue_eq]
    exact .payload payload _
  · split at received <;> cases received

theorem answers_of_error
    {error : Error}
    (failed : reception.subscription.tryReceive = .error error) :
    Answers reception.subscription.topic (reception.owed reader) (.error error)
      (reception.owed reader) := by
  unfold Subscription.tryReceive at failed
  split at failed
  · cases failed
  · rename_i queue_eq
    split at failed
    · cases failed
    · rename_i ended
      cases failed
      rw [owed, queue_eq, if_neg ended]
      exact .closed

theorem answers_receiveWithin
    (patience : Nat)
    (reception : Reception σ) :
    Answers reception.subscription.topic (reception.owed reader)
        (reception.receiveWithin reader patience).1
        ((reception.receiveWithin reader patience).2.owed reader) ∧
      (reception.receiveWithin reader patience).2.subscription.topic =
        reception.subscription.topic := by
  fun_induction receiveWithin reader patience reception with
  | case1 patience reception payload next received => exact answers_of_payload reader received
  | case2 patience reception error failed => exact ⟨answers_of_error reader failed, rfl⟩
  | case3 reception next waits => exact ⟨.nothing _, rfl⟩
  | case4 reception next waits patience inductionHypothesis =>
      rw [owed_read, topic_read] at inductionHypothesis
      exact inductionHypothesis

theorem answers_receive (reception : Reception σ) :
    Answers reception.subscription.topic (reception.owed reader)
        ((reception.receive reader).1.map some) ((reception.receive reader).2.owed reader) ∧
      (reception.receive reader).2.subscription.topic = reception.subscription.topic := by
  fun_induction receive reader reception with
  | case1 reception payload next received => exact answers_of_payload reader received
  | case2 reception error failed => exact ⟨answers_of_error reader failed, rfl⟩
  | case3 reception next waits shorter inductionHypothesis =>
      rw [owed_read, topic_read] at inductionHypothesis
      exact inductionHypothesis

/-- A receiver who waits gets the payload that is owed first, or learns that none is. -/
theorem receive_cases (reception : Reception σ) :
    (∃ payload later,
      reception.owed reader = payload :: later ∧ (reception.receive reader).1 = .ok payload ∧
        (reception.receive reader).2.owed reader = later) ∨
      reception.owed reader = [] ∧
        (reception.receive reader).1 =
          .error ⟨.subscriptionClosed reception.subscription.topic, []⟩ ∧
        (reception.receive reader).2.owed reader = [] := by
  obtain ⟨answers, -⟩ := answers_receive reader reception
  generalize reception.owed reader = before at answers ⊢
  generalize (reception.receive reader).2.owed reader = behind at answers ⊢
  cases result : (reception.receive reader).1 with
  | ok payload =>
      rw [result] at answers
      cases answers
      exact .inl ⟨payload, behind, rfl, rfl, rfl⟩
  | error error =>
      rw [result] at answers
      cases answers
      exact .inr ⟨rfl, rfl, rfl⟩

end Answers

/-! ## Runs -/

theorem Answers.payloads_append
    {topic : String}
    {before behind : List (List UInt8)}
    {answer : Except Error (Option (List UInt8))}
    (answers : Answers topic before answer behind) :
    payloads [answer] ++ behind = before := by
  cases answers <;> rfl

theorem Answers.of_error
    {topic : String}
    {before behind : List (List UInt8)}
    {error : Error}
    (answers : Answers topic before (.error error) behind) :
    before = [] ∧ error = ⟨.subscriptionClosed topic, []⟩ := by
  cases answers
  exact ⟨rfl, rfl⟩

/-- An event hands out what is owed first, or nothing.  Only to whom nothing is owed an error
is told. -/
theorem step_owed
    (reception : Reception σ)
    (event : Event) :
    payloads (reception.step reader event).1.toList ++ (reception.step reader event).2.owed reader =
        reception.owed reader ∧
      (∀ error, .error error ∈ (reception.step reader event).1.toList →
        reception.owed reader = [] ∧
          error = ⟨.subscriptionClosed reception.subscription.topic, []⟩) ∧
      (reception.step reader event).2.subscription.topic = reception.subscription.topic := by
  -- A receiver is answered in the same way whether it waits or not.
  have answered
      {answer : Except Error (Option (List UInt8))}
      {behind : List (List UInt8)}
      (answers : Answers reception.subscription.topic (reception.owed reader) answer behind) :
      payloads [answer] ++ behind = reception.owed reader ∧
        ∀ error, .error error ∈ [answer] → reception.owed reader = [] ∧
          error = ⟨.subscriptionClosed reception.subscription.topic, []⟩ := by
    refine ⟨answers.payloads_append, fun error member => ?_⟩
    obtain rfl := List.mem_singleton.mp member
    exact answers.of_error
  cases event with
  | read =>
      exact ⟨owed_read reader reception, fun _ member => absurd member List.not_mem_nil,
        topic_read reader reception⟩
  | receiveWithin patience =>
      obtain ⟨answers, topic_eq⟩ := answers_receiveWithin reader patience reception
      exact ⟨(answered answers).1, (answered answers).2, topic_eq⟩
  | receive =>
      obtain ⟨answers, topic_eq⟩ := answers_receive reader reception
      exact ⟨(answered answers).1, (answered answers).2, topic_eq⟩

theorem run_cons
    (reception : Reception σ)
    (event : Event)
    (rest : List Event) :
    reception.run reader (event :: rest) =
      ((reception.step reader event).1.toList ++
          ((reception.step reader event).2.run reader rest).1,
        ((reception.step reader event).2.run reader rest).2) :=
  rfl

/-- What was handed out and what is owed is always the same.  An error is told only to those
to whom nothing is owed any more. -/
theorem run_owed
    (reception : Reception σ)
    (events : List Event) :
    payloads (reception.run reader events).1 ++ (reception.run reader events).2.owed reader =
        reception.owed reader ∧
      (∀ error, .error error ∈ (reception.run reader events).1 →
        (reception.run reader events).2.owed reader = [] ∧
          error = ⟨.subscriptionClosed reception.subscription.topic, []⟩) ∧
      (reception.run reader events).2.subscription.topic = reception.subscription.topic := by
  induction events generalizing reception with
  | nil => exact ⟨rfl, fun _ member => absurd member List.not_mem_nil, rfl⟩
  | cons event rest inductionHypothesis =>
      obtain ⟨first, failed, topic_eq⟩ := step_owed reader reception event
      obtain ⟨later, laterFailed, laterTopic⟩ :=
        inductionHypothesis (reception.step reader event).2
      rw [run_cons]
      refine ⟨?_, ?_, laterTopic.trans topic_eq⟩
      · rw [payloads, List.filterMap_append, List.append_assoc]
        exact (congrArg _ later).trans first
      · intro error member
        rcases List.mem_append.mp member with now | behind
        · obtain ⟨nothing, error_eq⟩ := failed error now
          rw [nothing] at first
          rw [(List.append_eq_nil_iff.mp first).2] at later
          exact ⟨(List.append_eq_nil_iff.mp later).2, error_eq⟩
        · rw [← topic_eq]
          exact laterFailed error behind

/-- Receivers who wait get what is owed, and then no more. -/
theorem run_receive
    (reception : Reception σ)
    (count : Nat) :
    (reception.run reader (List.replicate count .receive)).1 =
      ((reception.owed reader).take count).map (.ok ∘ some) ++
        List.replicate (count - (reception.owed reader).length)
          (.error ⟨.subscriptionClosed reception.subscription.topic, []⟩) := by
  induction count generalizing reception with
  | zero => simp [run]
  | succ count inductionHypothesis =>
      have topic_eq := (answers_receive reader reception).2
      have next_eq : (reception.step reader .receive).2 = (reception.receive reader).2 := rfl
      rw [List.replicate_succ, run_cons, inductionHypothesis, next_eq, topic_eq]
      change (reception.receive reader).1.map some :: _ = _
      rcases receive_cases reader reception with
        ⟨payload, later, owed_eq, received, behind⟩ | ⟨owed_eq, failed, behind⟩
      · rw [owed_eq, received, behind, List.take_succ_cons, List.length_cons, Nat.add_sub_add_right]
        rfl
      · rw [owed_eq, failed, behind, List.take_nil, List.take_nil, List.length_nil, Nat.sub_zero,
          Nat.sub_zero, List.replicate_succ]
        rfl

/-! ## Clients -/

theorem subscribe_of_error
    {topic : String}
    {fault : FrameFault}
    (unfit : (Client.request topic).encode = .error fault)
    (reader : ByteReader σ)
    (writer : ByteWriter τ)
    (ending : TransportFault)
    (source : σ)
    (sink : τ) :
    subscribe reader writer ending topic source sink =
      (.error (Client.failure topic ⟨.frame fault, []⟩), sink) := by
  rw [subscribe, ByteWriter.writeFrame, unfit]

theorem subscribe_of_ok
    {topic : String}
    {bytes : List UInt8}
    (encoded : (Client.request topic).encode = .ok bytes)
    (reader : ByteReader σ)
    (writer : ByteWriter τ)
    (ending : TransportFault)
    (source : σ)
    (sink : τ) :
    subscribe reader writer ending topic source sink =
      (confirm reader ending (.ofTopic topic) source, writer.flush (writer.put bytes sink)) := by
  rw [subscribe, ByteWriter.writeFrame, encoded]

theorem confirm_of_subscribe
    {ending : TransportFault}
    {topic : String}
    {source : σ}
    {writer : ByteWriter τ}
    {sink : τ}
    {reception : Reception σ}
    (subscribed : (subscribe reader writer ending topic source sink).1 = .ok reception) :
    confirm reader ending (.ofTopic topic) source = .ok reception := by
  cases encoded : (Client.request topic).encode with
  | error fault =>
      rw [subscribe_of_error encoded] at subscribed
      cases subscribed
  | ok bytes =>
      rw [subscribe_of_ok encoded] at subscribed
      exact subscribed

/-- A client that gets no subscription blames the control channel. -/
theorem fault?_of_subscribe
    {ending : TransportFault}
    {topic : String}
    {source : σ}
    {writer : ByteWriter τ}
    {sink : τ}
    {error : Error}
    (failed : (subscribe reader writer ending topic source sink).1 = .error error) :
    error.fault? = some (.controlChannel topic) := by
  cases encoded : (Client.request topic).encode with
  | error fault =>
      rw [subscribe_of_error encoded] at failed
      cases failed
      exact Error.fault?_within_stage _ _
  | ok bytes =>
      rw [subscribe_of_ok encoded] at failed
      rcases confirm_cases reader ending (.ofTopic topic) source with
        ⟨ack, reception, confirmed, -⟩ | ⟨fault, refused, -⟩
      · exact absurd (confirmed.symm.trans failed) (by simp)
      · cases refused.symm.trans failed
        exact Error.fault?_within_stage _ _

/-- A client whose request has no bytes fails and sends nothing.  Any other sends its request,
and gets a subscription exactly if the broker's bytes begin with frames the last of which
confirms its topic.  All other outcomes are failures of the control channel.  Whatever is
received in between, the subscription hands out the payloads of all messages in front of the
first place where no frame can be read, in their order and once, and then it is closed. -/
theorem subscribe_yields_messages
    (reader : ByteReader σ)
    (writer : ByteWriter τ)
    (ending : TransportFault)
    (topic : String)
    (source : σ)
    (sink : τ) :
    let outcome := subscribe reader writer ending topic source sink
    let stream := reader.ahead source
    (∀ fault, (Client.request topic).encode = .error fault →
      outcome = (.error (Client.failure topic ⟨.frame fault, []⟩), sink)) ∧
    (∀ bytes, (Client.request topic).encode = .ok bytes →
      writer.written outcome.2 = writer.written sink ++ bytes ∧
        ((∃ reception, outcome.1 = .ok reception) ↔
          ∃ before ack rest, Frame.Leads (before ++ [ack]) rest stream ∧
            ack.kind = .subscribed ∧ ack.topic = topic)) ∧
    (∀ error, outcome.1 = .error error → error.fault? = some (.controlChannel topic)) ∧
    (∃ frames, Frame.Exhausts frames stream) ∧
    ∀ frames, Frame.Exhausts frames stream → ∀ reception, outcome.1 = .ok reception →
      let messages := (frames.filter (·.kind = .message)).map Frame.payload
      let closed : Error := ⟨.subscriptionClosed topic, []⟩
      (∀ events, ∃ left,
        let (answers, later) := reception.run reader events
        payloads answers ++ left = messages ∧
          (∀ error, .error error ∈ answers → left = [] ∧ error = closed) ∧
          (later.receive reader).1 = left.head?.elim (.error closed) .ok) ∧
      ∀ count, (reception.run reader (List.replicate count .receive)).1 =
        (messages.take count).map (.ok ∘ some) ++
          List.replicate (count - messages.length) (.error closed) := by
  intro outcome stream
  refine ⟨fun fault unfit => subscribe_of_error unfit .., fun bytes encoded => ?_, ?_,
    ⟨_, Frame.exhausts_readAll stream⟩, ?_⟩
  · have outcome_eq : outcome = _ := subscribe_of_ok encoded reader writer ending source sink
    rw [outcome_eq, writer.written_flush, writer.written_put, exists_confirm_iff]
    refine ⟨rfl, ?_⟩
    constructor
    · rintro ⟨ack, member, confirms⟩
      obtain ⟨before, rest, leads⟩ := Frame.mem_readAll_iff.mp member
      exact ⟨before, ack, rest, leads, confirms⟩
    · rintro ⟨before, ack, rest, leads, confirms⟩
      exact ⟨ack, Frame.mem_readAll_iff.mpr ⟨before, rest, leads⟩, confirms⟩
  · exact fun error failed => fault?_of_subscribe reader failed
  · intro frames exhausts reception subscribed messages closed
    obtain ⟨owed_eq, topic_eq⟩ := owed_of_confirm reader (confirm_of_subscribe reader subscribed)
    rw [exhausts.readAll_eq] at owed_eq
    constructor
    · intro events
      obtain ⟨yielded, failed, topic_kept⟩ := run_owed reader reception events
      rw [owed_eq] at yielded
      rw [topic_eq] at failed topic_kept
      refine ⟨(reception.run reader events).2.owed reader, yielded, failed, ?_⟩
      rcases receive_cases reader (reception.run reader events).2 with
        ⟨payload, later, left_eq, received, -⟩ | ⟨left_eq, ended, -⟩
      · rw [left_eq, received]
        rfl
      · rw [left_eq, ended, topic_kept]
        rfl
    · intro count
      rw [run_receive, owed_eq, topic_eq]
      rfl

/-- A message of another topic comes before the confirmation, and a confirmation of another
topic too.  Behind the second message stands a length that is too large, and no message
behind that one is received.  Both ends move few bytes at a time. -/
theorem subscribe_yields_messages_early :
    let early : List Frame := [⟨.message, "u", [1]⟩, ⟨.subscribed, "u", []⟩]
    let ack : Frame := ⟨.subscribed, "t", []⟩
    let late : List Frame := [⟨.publish, "t", [9]⟩, ⟨.subscribed, "t", []⟩, ⟨.message, "t", [2]⟩]
    let rest : List UInt8 := [255, 255, 255, 255, 0, 0, 0, 5, 3, 0, 1, 116, 3]
    let source : Source :=
      ⟨(early ++ ack :: late).flatMap Frame.spelling ++ rest, [.moves 2, .interrupted, .moves 0]⟩
    let outcome := subscribe Source.reader Sink.writer .endOfStream "t" source ⟨[], [.moves 0]⟩
    outcome.2.bytes = [0, 0, 0, 4, 1, 0, 1, 116] ∧
      ∃ reception, outcome.1 = .ok reception ∧
        (reception.run Source.reader (List.replicate 3 .receive)).1 =
          [.ok (some [1]), .ok (some [2]), .error ⟨.subscriptionClosed "t", []⟩] := by
  intro early ack late rest source outcome
  obtain ⟨-, sends, -, -, yields⟩ :=
    subscribe_yields_messages Source.reader Sink.writer .endOfStream "t" source ⟨[], [.moves 0]⟩
  have fits : (Client.request "t").Fits := by decide +kernel
  have fit : ∀ frame ∈ early ++ ack :: late, frame.Fits := by decide +kernel
  have leads := Frame.leads_spelled fit rest
  have exhausts : Frame.Exhausts (early ++ ack :: late) source.bytes := by
    refine ⟨rest, leads, fun frame later further => ?_⟩
    obtain ⟨behind, isRead, -⟩ := Frame.leads_cons_iff.mp further
    have stopped : (Frame.read rest).1 = .error (.malformed (.tooLarge 4294967295)) := by
      decide +kernel
    exact absurd (stopped.symm.trans (congrArg Prod.fst isRead)) (by simp)
  obtain ⟨written, confirms⟩ := sends _ (Frame.encode_eq_ok_iff.mpr ⟨fits, rfl⟩)
  obtain ⟨reception, subscribed⟩ := confirms.mpr <| by
    rw [List.append_cons] at leads
    obtain ⟨middle, first, -⟩ := Frame.leads_append_iff.mp leads
    exact ⟨early, ack, middle, first, rfl, rfl⟩
  exact ⟨written.trans (by decide +kernel), reception, subscribed,
    (yields _ exhausts reception subscribed).2 3⟩

end Reception
end PreAggregation
