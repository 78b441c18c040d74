import Mathlib.Data.List.TakeWhile
import PreAggregation.Control.Reception
import PreAggregation.Proofs.Control.Carriage
import PreAggregation.Proofs.Control.Streams

/-!
# Waiting for a confirmation

A client that has asked for a topic passes over frames until one of them confirms the
subscription.  It holds the messages among these, and all frames behind are left to whoever
reads on.
-/

namespace PreAggregation

/-! ## Streams that begin with frames -/

namespace Frame

/-- A stream is made of the bytes of some frames, one after another, and of a rest. -/
inductive Leads : List Frame → List UInt8 → List UInt8 → Prop
  | nil
      (rest : List UInt8) :
      Leads [] rest rest
  | cons
      {frame : Frame}
      {bytes : List UInt8}
      (encoded : frame.encode = .ok bytes)
      {frames : List Frame}
      {stream rest : List UInt8}
      (behind : Leads frames rest stream) :
      Leads (frame :: frames) rest (bytes ++ stream)

variable {frames : List Frame} {stream rest : List UInt8}

theorem leads_cons_iff {frame : Frame} :
    Leads (frame :: frames) rest stream ↔
      ∃ behind, read stream = (.ok frame, behind) ∧ Leads frames rest behind := by
  constructor
  · intro leads
    cases leads with
    | cons encoded behind => exact ⟨_, read_eq_ok_iff.mpr ⟨_, encoded, rfl⟩, behind⟩
  · rintro ⟨behind, isRead, leads⟩
    obtain ⟨bytes, encoded, rfl⟩ := read_eq_ok_iff.mp isRead
    exact .cons encoded leads

theorem leads_spelled
    (fit : ∀ frame ∈ frames, frame.Fits)
    (rest : List UInt8) :
    Leads frames rest (frames.flatMap spelling ++ rest) := by
  induction frames with
  | nil => exact .nil rest
  | cons frame others inductionHypothesis =>
      obtain ⟨fits, othersFit⟩ := List.forall_mem_cons.mp fit
      rw [List.flatMap_cons, List.append_assoc]
      exact .cons (encode_eq_ok_iff.mpr ⟨fits, rfl⟩) (inductionHypothesis othersFit)

theorem leads_append_iff {later : List Frame} :
    Leads (frames ++ later) rest stream ↔
      ∃ middle, Leads frames middle stream ∧ Leads later rest middle := by
  induction frames generalizing stream with
  | nil =>
      constructor
      · exact fun leads => ⟨stream, .nil stream, leads⟩
      · rintro ⟨middle, ⟨⟩, leads⟩
        exact leads
  | cons frame others inductionHypothesis =>
      rw [List.cons_append, leads_cons_iff]
      constructor
      · rintro ⟨behind, isRead, leads⟩
        obtain ⟨middle, first, second⟩ := inductionHypothesis.mp leads
        exact ⟨middle, leads_cons_iff.mpr ⟨behind, isRead, first⟩, second⟩
      · rintro ⟨middle, first, second⟩
        obtain ⟨behind, isRead, leads⟩ := leads_cons_iff.mp first
        exact ⟨behind, isRead, inductionHypothesis.mpr ⟨middle, leads, second⟩⟩

/-- The frames in front of a stream are read before all others. -/
theorem Leads.readAll_eq (leads : Leads frames rest stream) :
    (readAll stream).frames = frames ++ (readAll rest).frames := by
  induction frames generalizing stream with
  | nil =>
      cases leads
      rfl
  | cons frame others inductionHypothesis =>
      obtain ⟨behind, isRead, leads⟩ := leads_cons_iff.mp leads
      rw [readAll_of_ok isRead, inductionHypothesis leads]
      rfl

/-- Some frames stand in front of a stream, and no further one behind them. -/
def Exhausts (frames : List Frame) (stream : List UInt8) : Prop :=
  ∃ rest, Leads frames rest stream ∧ ∀ frame later, ¬Leads [frame] later rest

theorem exhausts_readAll (stream : List UInt8) : Exhausts (readAll stream).frames stream := by
  obtain ⟨result, behind, isRead⟩ : ∃ result behind, read stream = (result, behind) := ⟨_, _, rfl⟩
  cases result with
  | error fault =>
      rw [readAll_of_error (congrArg Prod.fst isRead)]
      refine ⟨stream, .nil stream, fun frame later leads => ?_⟩
      obtain ⟨behind, other, -⟩ := leads_cons_iff.mp leads
      exact absurd (isRead.symm.trans other) (by simp)
  | ok frame =>
      have shorter : behind.length < stream.length := by
        have := length_read_lt (congrArg Prod.fst isRead)
        rwa [isRead] at this
      obtain ⟨rest, leads, last⟩ := exhausts_readAll behind
      rw [readAll_of_ok isRead]
      exact ⟨rest, leads_cons_iff.mpr ⟨behind, isRead, leads⟩, last⟩
termination_by stream.length

/-- All frames that can be read are those that are read. -/
theorem Exhausts.readAll_eq (exhausts : Exhausts frames stream) :
    (readAll stream).frames = frames := by
  obtain ⟨rest, leads, last⟩ := exhausts
  obtain ⟨left, others, -⟩ := exhausts_readAll rest
  rw [leads.readAll_eq]
  cases found : (readAll rest).frames with
  | nil => exact List.append_nil frames
  | cons frame later =>
      rw [found, leads_cons_iff] at others
      obtain ⟨behind, isRead, -⟩ := others
      exact absurd (leads_cons_iff.mpr ⟨behind, isRead, .nil behind⟩) (last frame behind)

theorem mem_readAll_iff {frame : Frame} :
    frame ∈ (readAll stream).frames ↔
      ∃ before rest, Leads (before ++ [frame]) rest stream := by
  constructor
  · intro member
    obtain ⟨before, behind, split⟩ := List.append_of_mem member
    obtain ⟨rest, leads, -⟩ := exhausts_readAll stream
    rw [split, List.append_cons] at leads
    obtain ⟨middle, first, -⟩ := leads_append_iff.mp leads
    exact ⟨before, middle, first⟩
  · rintro ⟨before, rest, leads⟩
    rw [leads.readAll_eq, List.append_assoc]
    exact List.mem_append_right before List.mem_cons_self

/-- The frames before the first one that confirms the subscription. -/
def early (topic : String) (frames : List Frame) : List Frame :=
  frames.takeWhile (¬ ·.Confirms topic)

/-- The frames from the first one on that confirms the subscription. -/
def late (topic : String) (frames : List Frame) : List Frame :=
  frames.dropWhile (¬ ·.Confirms topic)

theorem early_cons (topic : String) (frame : Frame) :
    early topic (frame :: frames) =
      if frame.Confirms topic then [] else frame :: early topic frames := by
  by_cases confirms : frame.Confirms topic <;> simp [early, confirms]

theorem late_cons (topic : String) (frame : Frame) :
    late topic (frame :: frames) =
      if frame.Confirms topic then frame :: frames else late topic frames := by
  by_cases confirms : frame.Confirms topic <;> simp [late, confirms]

theorem early_append_late (topic : String) (frames : List Frame) :
    early topic frames ++ late topic frames = frames :=
  List.takeWhile_append_dropWhile

theorem messages_cons_of_message {frame : Frame} (isMessage : frame.kind = .message) :
    messages (frame :: frames) = frame.payload :: messages frames := by
  rw [messages, List.filter_cons_of_pos (by simpa using isMessage)]
  rfl

theorem messages_cons_of_not_message {frame : Frame} (other : frame.kind ≠ .message) :
    messages (frame :: frames) = messages frames := by
  rw [messages, List.filter_cons_of_neg (by simpa using other), messages]

end Frame

namespace ByteReader

variable {σ : Type} {reader : ByteReader σ} {source : σ}

theorem readAll_ahead_of_ok
    {frame : Frame}
    (isRead : (reader.readFrame source).1 = .ok frame) :
    (Frame.readAll (reader.ahead source)).frames =
      frame :: (Frame.readAll (reader.ahead (reader.readFrame source).2)).frames := by
  obtain ⟨result, left⟩ := reader.readFrame_eq source
  rw [left (by rw [isRead]; simp),
    Frame.readAll_of_ok (Prod.ext (result.symm.trans isRead) rfl)]

theorem readAll_ahead_of_error
    {fault : ReadFault}
    (stopped : (reader.readFrame source).1 = .error fault) :
    (Frame.readAll (reader.ahead source)).frames = [] := by
  rw [Frame.readAll_of_error ((reader.readFrame_eq source).1.symm.trans stopped)]

end ByteReader

namespace Reception

variable {σ : Type}

/-! ## The confirmation -/

/-- The loop stops behind the first frame that confirms the subscription, or fails because
no such frame is read.  It has taken the messages before. -/
theorem confirm_cases
    (reader : ByteReader σ)
    (ending : TransportFault)
    (subscription : Subscription)
    (source : σ) :
    let frames := (Frame.readAll (reader.ahead source)).frames
    (∃ ack reception,
      confirm reader ending subscription source = .ok reception ∧
        ack.Confirms subscription.topic ∧
        Frame.late subscription.topic frames =
          ack :: (Frame.readAll (reader.ahead reception.source)).frames ∧
        reception.subscription =
          { subscription with
            queue := subscription.queue ++
              Frame.messages (Frame.early subscription.topic frames) }) ∨
      ∃ fault : ReadFault,
        confirm reader ending subscription source = .error (Client.failure subscription.topic
          ((fault.error ending).within .noAcknowledgement)) ∧
        Frame.late subscription.topic frames = [] := by
  dsimp only
  fun_induction confirm reader ending subscription source with
  | case1 subscription source fault stopped =>
      right
      rw [ByteReader.readAll_ahead_of_error stopped]
      exact ⟨fault, rfl, rfl⟩
  | case2 subscription source frame isRead shorter rest confirms =>
      left
      rw [ByteReader.readAll_ahead_of_ok isRead, Frame.late_cons, if_pos confirms,
        Frame.early_cons, if_pos confirms]
      exact ⟨frame, ⟨rest, subscription⟩, rfl, confirms, rfl, by simp [Frame.messages]⟩
  | case3 subscription source frame isRead shorter rest awaits isMessage inductionHypothesis =>
      rw [ByteReader.readAll_ahead_of_ok isRead, Frame.late_cons, if_neg awaits,
        Frame.early_cons, if_neg awaits, Frame.messages_cons_of_message isMessage,
        List.append_cons]
      exact inductionHypothesis
  | case4 subscription source frame isRead shorter rest awaits other inductionHypothesis =>
      rw [ByteReader.readAll_ahead_of_ok isRead, Frame.late_cons, if_neg awaits,
        Frame.early_cons, if_neg awaits, Frame.messages_cons_of_not_message other]
      exact inductionHypothesis

theorem exists_confirm_iff
    (reader : ByteReader σ)
    (ending : TransportFault)
    (topic : String)
    (source : σ) :
    (∃ reception, confirm reader ending (.ofTopic topic) source = .ok reception) ↔
      ∃ ack ∈ (Frame.readAll (reader.ahead source)).frames, ack.Confirms topic := by
  rcases confirm_cases reader ending (.ofTopic topic) source with
    ⟨ack, reception, confirmed, confirms, late_eq, -⟩ | ⟨fault, failed, late_eq⟩
  · refine iff_of_true ⟨reception, confirmed⟩ ⟨ack, ?_, confirms⟩
    apply (List.dropWhile_sublist _).mem
    exact late_eq ▸ List.mem_cons_self
  · refine iff_of_false (fun ⟨reception, confirmed⟩ => ?_) ?_
    · exact absurd (failed.symm.trans confirmed) (by simp)
    · rintro ⟨ack, member, confirms⟩
      have awaits := List.dropWhile_eq_nil_iff.mp late_eq ack member
      exact of_decide_eq_true awaits confirms

end Reception
end PreAggregation
