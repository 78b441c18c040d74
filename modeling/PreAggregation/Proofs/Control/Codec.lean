import PreAggregation.Control.Frame.Stream
import PreAggregation.Proofs.Text.Utf8

/-!
# Frames and their bytes

A frame can be read from the front of a stream exactly if the stream begins with the
bytes of the frame.  So what is read does not depend on what comes later.
-/

namespace PreAggregation
namespace Frame

/-! ## Numbers -/

theorem ofBytes_twoBytes
    {number : Nat}
    (small : number < 65536) :
    ofBytes (twoBytes number) = number := by
  simp only [ofBytes, twoBytes, List.foldl_cons, List.foldl_nil, UInt8.toNat_ofNat']
  omega

theorem ofBytes_fourBytes
    {number : Nat}
    (small : number < 4294967296) :
    ofBytes (fourBytes number) = number := by
  simp only [ofBytes, fourBytes, twoBytes, List.cons_append, List.nil_append, List.foldl_cons,
    List.foldl_nil, UInt8.toNat_ofNat']
  omega

theorem twoBytes_ofBytes (high low : UInt8) : twoBytes (ofBytes [high, low]) = [high, low] := by
  have highSmall := high.toNat_lt
  have lowSmall := low.toNat_lt
  have first : UInt8.ofNat (ofBytes [high, low] / 256) = high := by
    apply UInt8.toNat_inj.mp
    simp only [ofBytes, List.foldl_cons, List.foldl_nil, UInt8.toNat_ofNat']
    omega
  have second : UInt8.ofNat (ofBytes [high, low]) = low := by
    apply UInt8.toNat_inj.mp
    simp only [ofBytes, List.foldl_cons, List.foldl_nil, UInt8.toNat_ofNat']
    omega
  rw [twoBytes, first, second]

theorem ofBytes_two_lt (high low : UInt8) : ofBytes [high, low] < 65536 := by
  have highSmall := high.toNat_lt
  have lowSmall := low.toNat_lt
  simp only [ofBytes, List.foldl_cons, List.foldl_nil]
  omega

theorem fourBytes_ofBytes (a b c d : UInt8) : fourBytes (ofBytes [a, b, c, d]) = [a, b, c, d] := by
  have lowSmall := ofBytes_two_lt c d
  have split : ofBytes [a, b, c, d] = ofBytes [a, b] * 65536 + ofBytes [c, d] := by
    simp only [ofBytes, List.foldl_cons, List.foldl_nil]
    omega
  have upper : ofBytes [a, b, c, d] / 65536 = ofBytes [a, b] := by
    omega
  have lower : twoBytes (ofBytes [a, b, c, d]) = twoBytes (ofBytes [c, d]) := by
    have high : UInt8.ofNat (ofBytes [a, b, c, d] / 256) = UInt8.ofNat (ofBytes [c, d] / 256) := by
      apply UInt8.toNat_inj.mp
      simp only [UInt8.toNat_ofNat']
      omega
    have low : UInt8.ofNat (ofBytes [a, b, c, d]) = UInt8.ofNat (ofBytes [c, d]) := by
      apply UInt8.toNat_inj.mp
      simp only [UInt8.toNat_ofNat']
      omega
    rw [twoBytes, twoBytes, high, low]
  rw [fourBytes, upper, lower, twoBytes_ofBytes, twoBytes_ofBytes]
  rfl

/-! ## Bodies -/

/-- The length of a body. -/
def bodyLength (frame : Frame) : Nat :=
  3 + (Text.Utf8.encode frame.topic).length + frame.payload.length

theorem length_body (frame : Frame) : frame.body.length = frame.bodyLength := by
  simp only [body, bodyLength, twoBytes, List.length_cons, List.length_append, List.length_nil]

theorem decode_body
    {frame : Frame}
    (short : (Text.Utf8.encode frame.topic).length ≤ maxTopicLength) :
    decode frame.body = .ok frame := by
  obtain ⟨kind, topic, payload⟩ := frame
  have small : (Text.Utf8.encode topic).length < 65536 := by
    change (Text.Utf8.encode topic).length ≤ 65536 - 1 at short
    omega
  have length_eq := ofBytes_twoBytes small
  rw [twoBytes] at length_eq
  have long : ¬(Text.Utf8.encode topic ++ payload).length < (Text.Utf8.encode topic).length := by
    rw [List.length_append]
    omega
  simp only [body, twoBytes, List.cons_append, List.nil_append, decode, FrameKind.ofNumber_number,
    length_eq, bind, Except.bind, if_neg long, List.take_left, List.drop_left,
    Text.Utf8.decode?_encode]
  rfl

theorem number_of_ofNumber
    {number : UInt8}
    {kind : FrameKind}
    (known : FrameKind.ofNumber number = .ok kind) :
    kind.number = number := by
  unfold FrameKind.ofNumber at known
  split at known
  · cases known
    exact Eq.symm ‹_›
  · split at known
    · cases known
      exact Eq.symm ‹_›
    · split at known
      · cases known
        exact Eq.symm ‹_›
      · split at known
        · cases known
          exact Eq.symm ‹_›
        · exact absurd known (by simp)

/-- Only the body of a frame is read as the frame. -/
theorem body_of_decode
    {bytes : List UInt8}
    {frame : Frame}
    (decoded : decode bytes = .ok frame) :
    frame.body = bytes ∧ (Text.Utf8.encode frame.topic).length ≤ maxTopicLength := by
  unfold decode at decoded
  split at decoded
  · rename_i number high low rest
    cases known : FrameKind.ofNumber number with
    | error fault => simp [known, bind, Except.bind] at decoded
    | ok kind =>
        by_cases truncated : rest.length < ofBytes [high, low]
        · simp [known, truncated, bind, Except.bind, throw, throwThe, MonadExceptOf.throw] at decoded
        · cases text : Text.Utf8.decode? (rest.take (ofBytes [high, low])) with
          | none =>
              simp [known, truncated, text, bind, Except.bind, throw, throwThe,
                MonadExceptOf.throw] at decoded
          | some topic =>
              simp only [known, truncated, text, bind, Except.bind, pure, Except.pure, if_false,
                Except.ok.injEq] at decoded
              subst decoded
              have spelled := Text.Utf8.encode_of_decode? text
              have topicLength : (Text.Utf8.encode topic).length = ofBytes [high, low] := by
                rw [spelled, List.length_take]
                omega
              refine ⟨?_, ?_⟩
              · dsimp only [body]
                rw [topicLength, spelled, twoBytes_ofBytes, number_of_ofNumber known,
                  List.append_assoc, List.take_append_drop]
                rfl
              · rw [topicLength]
                exact Nat.le_of_lt_succ (ofBytes_two_lt high low)
  · exact absurd decoded (by simp)

/-! ## Streams -/

/-- Whether a frame has bytes. -/
def Fits (frame : Frame) : Prop :=
  (Text.Utf8.encode frame.topic).length ≤ maxTopicLength ∧ frame.bodyLength ≤ maxLength

/-- The bytes of a frame that has some. -/
def spelling (frame : Frame) : List UInt8 :=
  fourBytes frame.bodyLength ++ frame.body

theorem spelling_ne_nil (frame : Frame) : frame.spelling ≠ [] :=
  List.cons_ne_nil _ _

theorem encode_eq_ok_iff
    {frame : Frame}
    {bytes : List UInt8} :
    frame.encode = .ok bytes ↔ frame.Fits ∧ bytes = frame.spelling := by
  unfold encode Fits spelling bodyLength
  dsimp only
  split
  · rename_i long
    simp only [reduceCtorEq, false_iff, not_and]
    omega
  · split
    · rename_i large
      simp only [reduceCtorEq, false_iff, not_and]
      omega
    · rename_i short small
      rw [Except.ok.injEq]
      constructor
      · rintro rfl
        exact ⟨⟨Nat.le_of_not_lt short, Nat.le_of_not_lt small⟩, rfl⟩
      · rintro ⟨_, rfl⟩
        rfl

/-- Reading a frame takes its bytes from the front of the stream. -/
theorem read_eq_ok_iff
    {stream rest : List UInt8}
    {frame : Frame} :
    read stream = (.ok frame, rest) ↔
      ∃ bytes, frame.encode = .ok bytes ∧ stream = bytes ++ rest := by
  constructor
  · intro isRead
    unfold read at isRead
    split at isRead
    · rename_i a b c d behind
      dsimp only at isRead
      by_cases large : maxLength < ofBytes [a, b, c, d]
      · rw [if_pos large] at isRead
        exact absurd (congrArg Prod.fst isRead) (by simp)
      · rw [if_neg large] at isRead
        by_cases short : behind.length < ofBytes [a, b, c, d]
        · rw [if_pos short] at isRead
          exact absurd (congrArg Prod.fst isRead) (by simp)
        · rw [if_neg short] at isRead
          cases decoded : decode (behind.take (ofBytes [a, b, c, d])) with
          | error fault =>
              rw [decoded] at isRead
              exact absurd (congrArg Prod.fst isRead) (by simp)
          | ok other =>
              rw [decoded] at isRead
              cases isRead
              obtain ⟨body_eq, topicShort⟩ := body_of_decode decoded
              have length_eq : frame.bodyLength = ofBytes [a, b, c, d] := by
                rw [← length_body, body_eq, List.length_take]
                omega
              refine ⟨_, encode_eq_ok_iff.mpr ⟨⟨topicShort, ?_⟩, rfl⟩, ?_⟩
              · omega
              · rw [spelling, length_eq, fourBytes_ofBytes, body_eq, List.append_assoc,
                  List.take_append_drop]
                rfl
    · exact absurd (congrArg Prod.fst isRead) (by simp)
  · rintro ⟨bytes, encoded, rfl⟩
    obtain ⟨⟨topicShort, small⟩, rfl⟩ := encode_eq_ok_iff.mp encoded
    have bound : frame.bodyLength < 4294967296 := by
      change frame.bodyLength ≤ 64 * 1024 at small
      omega
    have length_eq := ofBytes_fourBytes bound
    have large : ¬maxLength < frame.bodyLength := Nat.not_lt.mpr small
    have short : ¬(frame.body ++ rest).length < frame.bodyLength := by
      rw [List.length_append, length_body]
      omega
    have taken : (frame.body ++ rest).take frame.bodyLength = frame.body := by
      rw [← length_body, List.take_left]
    have dropped : (frame.body ++ rest).drop frame.bodyLength = rest := by
      rw [← length_body, List.drop_left]
    rw [spelling]
    simp only [fourBytes, twoBytes, List.cons_append, List.nil_append] at length_eq ⊢
    simp only [read, length_eq, if_neg large, if_neg short, taken, dropped, decode_body topicShort]

theorem Fits.read_spelling
    {frame : Frame}
    (fits : frame.Fits)
    (rest : List UInt8) :
    read (frame.spelling ++ rest) = (.ok frame, rest) :=
  read_eq_ok_iff.mpr ⟨frame.spelling, encode_eq_ok_iff.mpr ⟨fits, rfl⟩, rfl⟩

/-- What is read does not depend on what comes later. -/
theorem read_append_of_ok
    {stream rest : List UInt8}
    {frame : Frame}
    (isRead : read stream = (.ok frame, rest))
    (later : List UInt8) :
    read (stream ++ later) = (.ok frame, rest ++ later) := by
  obtain ⟨bytes, encoded, rfl⟩ := read_eq_ok_iff.mp isRead
  exact read_eq_ok_iff.mpr ⟨bytes, encoded, List.append_assoc bytes rest later⟩

theorem read_append_of_malformed
    {stream : List UInt8}
    {fault : FrameFault}
    (isRead : (read stream).1 = .error (.malformed fault))
    (later : List UInt8) :
    (read (stream ++ later)).1 = .error (.malformed fault) := by
  unfold read at isRead
  split at isRead
  · rename_i a b c d behind
    rw [List.cons_append, List.cons_append, List.cons_append, List.cons_append, read]
    dsimp only at isRead ⊢
    by_cases large : maxLength < ofBytes [a, b, c, d]
    · rw [if_pos large] at isRead ⊢
      exact isRead
    · rw [if_neg large] at isRead ⊢
      by_cases short : behind.length < ofBytes [a, b, c, d]
      · rw [if_pos short] at isRead
        exact absurd isRead (by simp)
      · have long : ¬(behind ++ later).length < ofBytes [a, b, c, d] := by
          rw [List.length_append]
          omega
        have same : (behind ++ later).take (ofBytes [a, b, c, d]) =
            behind.take (ofBytes [a, b, c, d]) :=
          List.take_append_of_le_length (Nat.le_of_not_lt short)
        rw [if_neg short] at isRead
        rw [if_neg long, same]
        cases decoded : decode (behind.take (ofBytes [a, b, c, d])) with
        | ok frame =>
            rw [decoded] at isRead
            exact absurd isRead (by simp)
        | error other =>
            rw [decoded] at isRead
            exact isRead
  · exact absurd isRead (by simp)

end Frame
end PreAggregation
