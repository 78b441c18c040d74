import PreAggregation.Control.Frame.Stream
import PreAggregation.Control.Transport

/-!
# Moving frames

A frame is read from a source by taking the four bytes of its length and then as many
bytes as these announce.  It is written by putting all its bytes into a sink.
-/

namespace PreAggregation

/-- What a reader gets from a source. -/
structure Intake (σ : Type) where
  /-- The frames. -/
  frames : List Frame
  /-- Why there is no further frame. -/
  fault : ReadFault
  /-- What is left of the source. -/
  source : σ

namespace ByteReader

variable {σ : Type}

/-- Reads one frame. -/
def readFrame (reader : ByteReader σ) (source : σ) : Except ReadFault Frame × σ :=
  match reader.take 4 source with
  | (none, source) => (.error .incomplete, source)
  | (some announcement, source) =>
      let length := Frame.ofBytes announcement
      if Frame.maxLength < length then (.error (.malformed (.tooLarge length)), source)
      else
        match reader.take length source with
        | (none, source) => (.error .incomplete, source)
        | (some body, source) => ((Frame.decode body).mapError .malformed, source)

theorem exists_take_eq_some (reader : ByteReader σ) {count : Nat} {source : σ}
    (enough : count ≤ (reader.ahead source).length) :
    ∃ next, reader.take count source = (some ((reader.ahead source).take count), next) ∧
      reader.ahead next = (reader.ahead source).drop count :=
  have ⟨taken, left⟩ := reader.take_of_le enough
  ⟨_, Prod.ext taken rfl, left⟩

theorem exists_take_eq_none (reader : ByteReader σ) {count : Nat} {source : σ}
    (tooFew : (reader.ahead source).length < count) :
    ∃ next, reader.take count source = (none, next) :=
  ⟨_, Prod.ext (reader.take_of_lt tooFew) rfl⟩

/-- What is read depends on the bytes alone, and so does what is left, unless the source
has come to its end. -/
theorem readFrame_eq (reader : ByteReader σ) (source : σ) :
    (reader.readFrame source).1 = (Frame.read (reader.ahead source)).1 ∧
      ((reader.readFrame source).1 ≠ .error .incomplete →
        reader.ahead (reader.readFrame source).2 = (Frame.read (reader.ahead source)).2) := by
  unfold readFrame
  by_cases long : 4 ≤ (reader.ahead source).length
  · obtain ⟨behind, first, ahead_behind⟩ := reader.exists_take_eq_some long
    rw [Frame.read_of_le long, first]
    dsimp only
    rw [← Frame.announced]
    by_cases large : Frame.maxLength < Frame.announced (reader.ahead source)
    · rw [if_pos large, if_pos large]
      exact ⟨rfl, fun _ => ahead_behind⟩
    · rw [if_neg large, if_neg large]
      by_cases short : ((reader.ahead source).drop 4).length < Frame.announced (reader.ahead source)
      · obtain ⟨last, ended⟩ := reader.exists_take_eq_none (ahead_behind.symm ▸ short)
        rw [if_pos short, ended]
        exact ⟨rfl, fun other => absurd rfl other⟩
      · obtain ⟨left, body, ahead_left⟩ :=
          reader.exists_take_eq_some (Nat.le_of_not_lt (ahead_behind.symm ▸ short))
        rw [if_neg short, body, ← ahead_behind]
        exact ⟨rfl, fun _ => ahead_left⟩
  · have short := Nat.lt_of_not_le long
    obtain ⟨last, ended⟩ := reader.exists_take_eq_none short
    rw [Frame.read_of_lt short, ended]
    exact ⟨rfl, fun other => absurd rfl other⟩

/-- A frame that is read leaves fewer bytes. -/
theorem length_readFrame_lt {reader : ByteReader σ} {source : σ} {frame : Frame}
    (isRead : (reader.readFrame source).1 = .ok frame) :
    (reader.ahead (reader.readFrame source).2).length < (reader.ahead source).length := by
  obtain ⟨result, rest⟩ := reader.readFrame_eq source
  rw [rest (by rw [isRead]; simp)]
  exact Frame.length_read_lt (result.symm.trans isRead)

/-- Reads frames until one cannot be read. -/
def readFrames (reader : ByteReader σ) (source : σ) : Intake σ :=
  match isRead : (reader.readFrame source).1 with
  | .error fault => ⟨[], fault, (reader.readFrame source).2⟩
  | .ok frame =>
      have := length_readFrame_lt isRead
      let later := readFrames reader (reader.readFrame source).2
      { later with frames := frame :: later.frames }
termination_by (reader.ahead source).length

end ByteReader

namespace ByteWriter

variable {σ : Type}

/-- Writes one frame.  Of a frame that has no bytes nothing is written. -/
def writeFrame (writer : ByteWriter σ) (frame : Frame) (sink : σ) : Except FrameFault Unit × σ :=
  match frame.encode with
  | .ok bytes => (.ok (), writer.flush (writer.put bytes sink))
  | .error fault => (.error fault, sink)

/-- Writes frames one after another, and gives for each whether it was written. -/
def writeFrames (writer : ByteWriter σ) : List Frame → σ → List (Except FrameFault Unit) × σ
  | [], sink => ([], sink)
  | frame :: rest, sink =>
      let (result, sink) := writer.writeFrame frame sink
      let (results, sink) := writer.writeFrames rest sink
      (result :: results, sink)

end ByteWriter
end PreAggregation
