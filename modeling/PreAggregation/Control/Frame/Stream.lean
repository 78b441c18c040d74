import PreAggregation.Control.Frame.Basic

/-!
# Streams of frames

Frames stand one after another in a stream of bytes.  Reading stops at the first
place where no frame can be read: where the bytes end, where a length is too large,
or where a body is not that of a frame.
-/

namespace PreAggregation

/-- Why no frame could be read. -/
inductive ReadFault
  /-- The bytes end before the frame does. -/
  | incomplete
  /-- The length or the body is not that of a frame. -/
  | malformed (fault : FrameFault)
  deriving DecidableEq, Repr

/-- The fault as an error, where `ending` is what a reader meets at the end of the
bytes. -/
def ReadFault.error (ending : TransportFault) : ReadFault → Error
  | .incomplete => ⟨.transport ending, []⟩
  | .malformed fault => ⟨.frame fault, []⟩

namespace Frame

/-- Reads one frame from the front of a stream, and gives the bytes that are not read.
Of a frame that is not complete nothing is read. -/
def read (stream : List UInt8) : Except ReadFault Frame × List UInt8 :=
  match stream with
  | a :: b :: c :: d :: rest =>
      let length := ofBytes [a, b, c, d]
      if maxLength < length then (.error (.malformed (.tooLarge length)), rest)
      else if rest.length < length then (.error .incomplete, stream)
      else
        match decode (rest.take length) with
        | .ok frame => (.ok frame, rest.drop length)
        | .error fault => (.error (.malformed fault), rest.drop length)
  | _ => (.error .incomplete, stream)

/-- The length that a stream announces in its first four bytes. -/
def announced (stream : List UInt8) : Nat :=
  ofBytes (stream.take 4)

theorem read_of_lt {stream : List UInt8} (short : stream.length < 4) :
    read stream = (.error .incomplete, stream) := by
  unfold read
  split
  · simp only [List.length_cons] at short
    omega
  · rfl

theorem read_of_le {stream : List UInt8} (long : 4 ≤ stream.length) :
    read stream =
      if maxLength < announced stream then
        (.error (.malformed (.tooLarge (announced stream))), stream.drop 4)
      else if (stream.drop 4).length < announced stream then (.error .incomplete, stream)
      else
        ((decode ((stream.drop 4).take (announced stream))).mapError .malformed,
          (stream.drop 4).drop (announced stream)) := by
  match stream, long with
  | a :: b :: c :: d :: rest, _ =>
      rw [read]
      change (if maxLength < announced (a :: b :: c :: d :: rest) then _
        else if rest.length < announced (a :: b :: c :: d :: rest) then _ else _) = _
      by_cases large : maxLength < announced (a :: b :: c :: d :: rest)
      · rw [if_pos large, if_pos large]
        rfl
      · rw [if_neg large, if_neg large]
        by_cases short : rest.length < announced (a :: b :: c :: d :: rest)
        · exact (if_pos short).trans (if_pos short).symm
        · refine (if_neg short).trans (Eq.trans ?_ (if_neg short).symm)
          change (match decode (rest.take (announced (a :: b :: c :: d :: rest))) with
            | .ok frame => _ | .error fault => _) =
            ((decode (rest.take (announced (a :: b :: c :: d :: rest)))).mapError _, _)
          cases decode (rest.take (announced (a :: b :: c :: d :: rest))) <;> rfl

/-- A frame that is read leaves a shorter stream. -/
theorem length_read_lt {stream : List UInt8} {frame : Frame}
    (isRead : (read stream).1 = .ok frame) : (read stream).2.length < stream.length := by
  unfold read at isRead ⊢
  split
  · dsimp only at isRead ⊢
    split
    · simp_all
    · split
      · simp_all
      · split <;> simp_all; omega
  · simp at isRead

/-- What a reader gets from a stream. -/
structure Reading where
  /-- The frames. -/
  frames : List Frame
  /-- Why there is no further frame. -/
  fault : ReadFault
  /-- The bytes that are not read. -/
  rest : List UInt8

/-- Reads frames until one cannot be read, behind those of `frames` in reverse. -/
def readFrom (frames : List Frame) (stream : List UInt8) : Reading :=
  match isRead : (read stream).1 with
  | .error fault => ⟨frames.reverse, fault, (read stream).2⟩
  | .ok frame =>
      have := length_read_lt isRead
      readFrom (frame :: frames) (read stream).2
termination_by stream.length

/-- Reads all frames of a stream. -/
def readAll (stream : List UInt8) : Reading :=
  readFrom [] stream

/-- Writes frames one after another.  For each there is the length of the stream after
it, or the fault for which it is left out. -/
def writeFrom (written : Nat) : List Frame → List (Except FrameFault Nat) × List UInt8
  | [] => ([], [])
  | frame :: rest =>
      match frame.encode with
      | .ok bytes =>
          let total := written + bytes.length
          let (results, stream) := writeFrom total rest
          (.ok total :: results, bytes ++ stream)
      | .error fault =>
          let (results, stream) := writeFrom written rest
          (.error fault :: results, stream)

/-- Writes frames into an empty stream. -/
def writeAll (frames : List Frame) : List (Except FrameFault Nat) × List UInt8 :=
  writeFrom 0 frames

end Frame
end PreAggregation
