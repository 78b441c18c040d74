import PreAggregation.Control.Frame.Transfer
import PreAggregation.Proofs.Control.Codec

/-!
# Frames out of streams

A stream of bytes is split into frames in one way only.  At its front stand the bytes of
the frames that are read, and of the rest it is told why no frame can be read there.  A
stream that is cut off has the frames that it had before the cut.

All this holds of a source or a sink that is used through a transport, because what
happens there depends on its bytes alone.
-/

namespace PreAggregation
namespace Frame

/-! ## Bodies that are refused -/

/-- Whether a body is not that of a frame.  It is too short, its type is unknown, it ends
inside its topic, or its topic is not text. -/
def Unreadable : List UInt8 → Prop
  | number :: high :: low :: content =>
      let topicLength := ofBytes [high, low]
      (number < 1 ∨ 4 < number) ∨ content.length < topicLength ∨
        ∀ topic, Text.Utf8.encode topic ≠ content.take topicLength
  | _ => True

theorem exists_ofNumber_eq_error_iff (number : UInt8) :
    (∃ fault, FrameKind.ofNumber number = .error fault) ↔ number < 1 ∨ 4 < number := by
  unfold FrameKind.ofNumber
  by_cases isOne : number = 1
  · simp [isOne]
  · by_cases isTwo : number = 2
    · simp [isTwo]
    · by_cases isThree : number = 3
      · simp [isThree]
      · by_cases isFour : number = 4
        · simp [isFour]
        · have outside : number < 1 ∨ 4 < number := by
            simp only [← UInt8.toNat_inj, UInt8.lt_iff_toNat_lt, UInt8.reduceToNat] at *
            omega
          simp only [if_neg isOne, if_neg isTwo, if_neg isThree, if_neg isFour, outside,
            Except.error.injEq, exists_eq']

theorem decode?_eq_none_iff (bytes : List UInt8) :
    Text.Utf8.decode? bytes = none ↔ ∀ text, Text.Utf8.encode text ≠ bytes := by
  constructor
  · rintro refused text rfl
    rw [Text.Utf8.decode?_encode] at refused
    exact Option.some_ne_none text refused
  · intro foreign
    cases decoded : Text.Utf8.decode? bytes with
    | none => rfl
    | some text => exact absurd (Text.Utf8.encode_of_decode? decoded) (foreign text)

theorem exists_decode_eq_error_iff (body : List UInt8) :
    (∃ fault, decode body = .error fault) ↔ Unreadable body := by
  unfold decode Unreadable
  split
  · rename_i number high low content
    dsimp only
    rw [← exists_ofNumber_eq_error_iff, ← decode?_eq_none_iff]
    cases known : FrameKind.ofNumber number with
    | error fault => simp [bind, Except.bind]
    | ok kind =>
        by_cases truncated : content.length < ofBytes [high, low]
        · simp [truncated, bind, Except.bind, throw, throwThe, MonadExceptOf.throw]
        · cases text : Text.Utf8.decode? (content.take (ofBytes [high, low])) <;>
            simp [truncated, bind, Except.bind, throw, throwThe, MonadExceptOf.throw, pure,
              Except.pure]
  · simp

/-! ## Where reading stops -/

/-- How reading stops in front of some bytes: for what fault, and which bytes are then
left. -/
inductive Stops (rest : List UInt8) : ReadFault → List UInt8 → Prop
  /-- The length is not complete. -/
  | noLength
      (left : List UInt8)
      (short : rest.length < 4) :
      Stops rest .incomplete left
  /-- The body is not complete. -/
  | noBody
      (left : List UInt8)
      (long : 4 ≤ rest.length)
      (small : announced rest ≤ maxLength)
      (short : rest.length < 4 + announced rest) :
      Stops rest .incomplete left
  /-- The length is too large.  Only its bytes are taken. -/
  | tooLarge
      (long : 4 ≤ rest.length)
      (large : maxLength < announced rest) :
      Stops rest (.malformed (.tooLarge (announced rest))) (rest.drop 4)
  /-- The body is complete, but not that of a frame.  Its bytes are taken. -/
  | unreadable
      (fault : FrameFault)
      (long : 4 + announced rest ≤ rest.length)
      (small : announced rest ≤ maxLength)
      (refused : Unreadable ((rest.drop 4).take (announced rest)))
      (decoded : decode ((rest.drop 4).take (announced rest)) = .error fault) :
      Stops rest (.malformed fault) (rest.drop (4 + announced rest))

theorem stops_of_read
    {rest left : List UInt8}
    {fault : ReadFault}
    (stopped : (read rest).1 = .error fault)
    (left_eq : fault ≠ .incomplete → left = (read rest).2) :
    Stops rest fault left := by
  by_cases long : 4 ≤ rest.length
  · rw [read_of_le long] at stopped left_eq
    by_cases large : maxLength < announced rest
    · rw [if_pos large] at stopped left_eq
      cases stopped
      obtain rfl := left_eq (by simp)
      exact .tooLarge long large
    · rw [if_neg large] at stopped left_eq
      have small := Nat.le_of_not_lt large
      by_cases short : (rest.drop 4).length < announced rest
      · rw [if_pos short] at stopped
        cases stopped
        rw [List.length_drop] at short
        exact .noBody left long small (by omega)
      · rw [if_neg short] at stopped left_eq
        cases decoded : decode ((rest.drop 4).take (announced rest)) with
        | ok frame =>
            rw [decoded] at stopped
            change Except.ok frame = .error fault at stopped
            cases stopped
        | error flaw =>
            rw [decoded] at stopped
            cases stopped
            obtain rfl := left_eq (by simp)
            rw [List.length_drop] at short
            rw [List.drop_drop]
            exact .unreadable flaw (by omega) small
              ((exists_decode_eq_error_iff _).mp ⟨flaw, decoded⟩) decoded
  · have short := Nat.lt_of_not_le long
    rw [read_of_lt short] at stopped
    cases stopped
    exact .noLength left short

/-- The bytes tell the fault. -/
theorem Stops.fault_unique
    {rest left otherLeft : List UInt8}
    {fault otherFault : ReadFault}
    (stops : Stops rest fault left)
    (otherStops : Stops rest otherFault otherLeft) :
    otherFault = fault := by
  cases stops <;> cases otherStops <;> first | rfl | omega | simp_all

/-! ## All frames of a stream -/

theorem readFrom_of_error
    {stream : List UInt8}
    {fault : ReadFault}
    (stopped : (read stream).1 = .error fault)
    (earlier : List Frame) :
    readFrom earlier stream = ⟨earlier.reverse, fault, (read stream).2⟩ := by
  rw [readFrom]
  split
  · rename_i other stopped'
    cases stopped.symm.trans stopped'
    rfl
  · rename_i frame isRead
    exact absurd (stopped.symm.trans isRead) (by simp)

theorem readFrom_of_ok
    {stream rest : List UInt8}
    {frame : Frame}
    (isRead : read stream = (.ok frame, rest))
    (earlier : List Frame) :
    readFrom earlier stream = readFrom (frame :: earlier) rest := by
  rw [readFrom]
  split
  · rename_i fault stopped
    rw [isRead] at stopped
    cases stopped
  · rename_i other isRead'
    change readFrom (other :: earlier) (read stream).2 = _
    rw [isRead] at isRead' ⊢
    cases isRead'
    rfl

theorem readFrom_eq
    (earlier : List Frame)
    (stream : List UInt8) :
    readFrom earlier stream =
      { readAll stream with frames := earlier.reverse ++ (readAll stream).frames } := by
  cases isRead : read stream with
  | mk result rest =>
      cases result with
      | error fault =>
          have stopped : (read stream).1 = .error fault := by rw [isRead]
          rw [readAll, readFrom_of_error stopped, readFrom_of_error stopped, List.reverse_nil,
            List.append_nil]
      | ok frame =>
          have shorter : rest.length < stream.length := by
            have := length_read_lt (congrArg Prod.fst isRead)
            rwa [isRead] at this
          rw [readAll, readFrom_of_ok isRead, readFrom_of_ok isRead, readFrom_eq (frame :: earlier),
            readFrom_eq [frame], List.reverse_cons, List.append_assoc]
          rfl
termination_by stream.length

theorem readAll_of_error
    {stream : List UInt8}
    {fault : ReadFault}
    (stopped : (read stream).1 = .error fault) :
    readAll stream = ⟨[], fault, (read stream).2⟩ :=
  readFrom_of_error stopped []

theorem readAll_of_ok
    {stream rest : List UInt8}
    {frame : Frame}
    (isRead : read stream = (.ok frame, rest)) :
    readAll stream = { readAll rest with frames := frame :: (readAll rest).frames } := by
  rw [readAll, readFrom_of_ok isRead, readFrom_eq]
  rfl

theorem seven_le_length_spelling (frame : Frame) : 7 ≤ frame.spelling.length := by
  rw [spelling, List.length_append, length_body, bodyLength]
  change 7 ≤ 4 + _
  omega

/-- A stream is made of the bytes of the frames that are read from it and of a rest, at
which reading stops.  As every frame has some bytes, there are not too many. -/
theorem readAll_splits (stream : List UInt8) :
    ∃ encodings rest, (readAll stream).frames.mapM encode = .ok encodings ∧
      stream = encodings.flatten ++ rest ∧
      7 * (readAll stream).frames.length ≤ stream.length ∧
      (read rest).1 = .error (readAll stream).fault ∧ (readAll stream).rest = (read rest).2 := by
  cases isRead : read stream with
  | mk result rest =>
      cases result with
      | error fault =>
          have stopped : (read stream).1 = .error fault := by rw [isRead]
          rw [readAll_of_error stopped]
          exact ⟨[], stream, rfl, rfl, Nat.zero_le _, stopped, rfl⟩
      | ok frame =>
          have shorter : rest.length < stream.length := by
            have := length_read_lt (congrArg Prod.fst isRead)
            rwa [isRead] at this
          obtain ⟨bytes, encoded, stream_eq⟩ := read_eq_ok_iff.mp isRead
          obtain ⟨encodings, last, allEncoded, rest_eq, few, stopped, left⟩ := readAll_splits rest
          rw [readAll_of_ok isRead]
          refine ⟨bytes :: encodings, last, ?_, ?_, ?_, stopped, left⟩
          · simp [List.mapM_cons, encoded, allEncoded, bind, Except.bind, pure, Except.pure]
          · rw [stream_eq, rest_eq, List.flatten_cons, List.append_assoc]
          · have enough := seven_le_length_spelling frame
            rw [← (encode_eq_ok_iff.mp encoded).2] at enough
            rw [stream_eq, List.length_append, List.length_cons]
            omega
termination_by stream.length

/-! ## Streams that are cut -/

instance (frame : Frame) : Decidable frame.Fits :=
  inferInstanceAs (Decidable (_ ∧ _))

/-- The bytes of a frame without some at their end are not those of a frame. -/
theorem Fits.read_take_spelling
    {frame : Frame}
    (fits : frame.Fits)
    {cut : Nat}
    (inside : cut < frame.spelling.length) :
    (read (frame.spelling.take cut)).1 = .error .incomplete := by
  have whole : frame.spelling.take cut ++ frame.spelling.drop cut = frame.spelling :=
    List.take_append_drop cut frame.spelling
  have missing : frame.spelling.drop cut ≠ [] := by
    rwa [ne_eq, List.drop_eq_nil_iff, Nat.not_le]
  have complete : read frame.spelling = (.ok frame, []) := by
    simpa using fits.read_spelling []
  -- What is read from the front of the bytes would be read from all of them as well.
  cases isRead : read (frame.spelling.take cut) with
  | mk result rest =>
      match result with
      | .ok other =>
          have early := read_append_of_ok isRead (frame.spelling.drop cut)
          rw [whole, complete] at early
          have noRest := congrArg Prod.snd early
          exact absurd (List.append_eq_nil_iff.mp noRest.symm).2 missing
      | .error (.malformed fault) =>
          have early :=
            read_append_of_malformed (congrArg Prod.fst isRead) (frame.spelling.drop cut)
          rw [whole, complete] at early
          cases early
      | .error .incomplete => rfl

/-- From the bytes of some frames those frames are read that are complete. -/
theorem readAll_take_spelled
    {frames : List Frame}
    (fit : ∀ frame ∈ frames, frame.Fits)
    (cut : Nat) :
    ∃ count ≤ frames.length,
      (readAll ((frames.flatMap spelling).take cut)).frames = frames.take count ∧
      (readAll ((frames.flatMap spelling).take cut)).fault = .incomplete ∧
      ∀ number ≤ frames.length,
        number ≤ count ↔ ((frames.take number).flatMap spelling).length ≤ cut := by
  induction frames generalizing cut with
  | nil =>
      have stopped : (read []).1 = .error .incomplete := rfl
      rw [List.flatMap_nil, List.take_nil, readAll_of_error stopped]
      exact ⟨0, Nat.le_refl 0, rfl, rfl, fun number none => by simp_all⟩
  | cons frame rest inductionHypothesis =>
      obtain ⟨fits, restFit⟩ := List.forall_mem_cons.mp fit
      rw [List.flatMap_cons, List.take_append]
      -- The cut is behind the first frame or inside it.
      by_cases whole : frame.spelling.length ≤ cut
      · obtain ⟨count, few, frames_eq, fault_eq, complete⟩ :=
          inductionHypothesis restFit (cut - frame.spelling.length)
        rw [List.take_of_length_le whole, readAll_of_ok (fits.read_spelling _)]
        refine ⟨count + 1, Nat.succ_le_succ few, ?_, fault_eq, ?_⟩
        · rw [frames_eq, List.take_succ_cons]
        · intro number bound
          cases number with
          | zero => simp
          | succ number =>
              rw [List.take_succ_cons, List.flatMap_cons, List.length_append,
                Nat.add_le_add_iff_right, complete number (Nat.le_of_succ_le_succ bound)]
              omega
      · have inside := Nat.lt_of_not_le whole
        have noMore : cut - frame.spelling.length = 0 := Nat.sub_eq_zero_of_le (Nat.le_of_lt inside)
        rw [noMore, List.take_zero, List.append_nil,
          readAll_of_error (fits.read_take_spelling inside)]
        refine ⟨0, Nat.zero_le _, rfl, rfl, fun number _ => ?_⟩
        cases number with
        | zero => simp
        | succ number =>
            rw [List.take_succ_cons, List.flatMap_cons, List.length_append]
            omega

theorem readAll_spelled
    {frames : List Frame}
    (fit : ∀ frame ∈ frames, frame.Fits) :
    (readAll (frames.flatMap spelling)).frames = frames ∧
      (readAll (frames.flatMap spelling)).fault = .incomplete := by
  obtain ⟨count, few, frames_eq, fault_eq, complete⟩ :=
    readAll_take_spelled fit (frames.flatMap spelling).length
  rw [List.take_length] at frames_eq fault_eq
  have all : frames.length ≤ count :=
    (complete frames.length (Nat.le_refl _)).mpr (by simp only [List.take_length, Nat.le_refl])
  exact ⟨frames_eq.trans (List.take_of_length_le all), fault_eq⟩

end Frame

/-! ## Through transports -/

namespace ByteReader

variable {σ : Type}

/-- The frames depend on the bytes alone, and so does what is left, unless the source has
come to its end. -/
theorem readFrames_eq
    (reader : ByteReader σ)
    (source : σ) :
    (reader.readFrames source).frames = (Frame.readAll (reader.ahead source)).frames ∧
      (reader.readFrames source).fault = (Frame.readAll (reader.ahead source)).fault ∧
      ((reader.readFrames source).fault ≠ .incomplete →
        reader.ahead (reader.readFrames source).source =
          (Frame.readAll (reader.ahead source)).rest) := by
  fun_induction readFrames reader source with
  | case1 source fault stopped =>
      obtain ⟨result, left⟩ := reader.readFrame_eq source
      rw [Frame.readAll_of_error (result.symm.trans stopped)]
      exact ⟨rfl, rfl, fun other => left (by rw [stopped]; simpa using other)⟩
  | case2 source frame isRead shorter later inductionHypothesis =>
      obtain ⟨result, left⟩ := reader.readFrame_eq source
      have rest_eq := left (by rw [isRead]; simp)
      rw [rest_eq] at inductionHypothesis
      obtain ⟨frames_eq, fault_eq, left_eq⟩ := inductionHypothesis
      have isRead' : Frame.read (reader.ahead source) = (.ok frame, _) :=
        Prod.ext (result.symm.trans isRead) rfl
      rw [Frame.readAll_of_ok isRead']
      exact ⟨congrArg (frame :: ·) frames_eq, fault_eq, left_eq⟩

/-- Reading comes to an end at every source, at the latest when its bytes do.  In front
stand the bytes of the frames that are read, and the rest alone tells why there is no
further one and what else is taken.  A body is refused exactly if it is not that of a frame.
Whoever reads the same bytes through another transport gets the same. -/
theorem readFrames_canonical
    (reader : ByteReader σ)
    (source : σ) :
    (∃ encodings rest,
      (reader.readFrames source).frames.mapM Frame.encode = .ok encodings ∧
        reader.ahead source = encodings.flatten ++ rest ∧
        7 * (reader.readFrames source).frames.length ≤ (reader.ahead source).length ∧
        Frame.Stops rest (reader.readFrames source).fault
          (reader.ahead (reader.readFrames source).source) ∧
        ∀ fault left, Frame.Stops rest fault left → fault = (reader.readFrames source).fault) ∧
      (∀ body, (∃ fault, Frame.decode body = .error fault) ↔ Frame.Unreadable body) ∧
      ∀ (τ : Type) (otherReader : ByteReader τ) (other : τ),
        otherReader.ahead other = reader.ahead source →
        (otherReader.readFrames other).frames = (reader.readFrames source).frames ∧
          (otherReader.readFrames other).fault = (reader.readFrames source).fault ∧
          ((otherReader.readFrames other).fault ≠ .incomplete →
            otherReader.ahead (otherReader.readFrames other).source =
              reader.ahead (reader.readFrames source).source) := by
  obtain ⟨frames_eq, fault_eq, left_eq⟩ := reader.readFrames_eq source
  refine ⟨?_, Frame.exists_decode_eq_error_iff, ?_⟩
  · obtain ⟨encodings, rest, encoded, split, few, stopped, rest_eq⟩ :=
      Frame.readAll_splits (reader.ahead source)
    rw [← frames_eq] at encoded few
    rw [← fault_eq] at stopped
    have stops := Frame.stops_of_read stopped fun other => (left_eq other).trans rest_eq
    exact ⟨encodings, rest, encoded, split, few, stops, fun _ _ => stops.fault_unique⟩
  · intro τ otherReader other same
    obtain ⟨otherFrames, otherFault, otherLeft⟩ := otherReader.readFrames_eq other
    rw [same] at otherFrames otherFault otherLeft
    have fault_same := otherFault.trans fault_eq.symm
    refine ⟨otherFrames.trans frames_eq.symm, fault_same, fun going => ?_⟩
    exact (otherLeft going).trans (left_eq (fault_same ▸ going)).symm

end ByteReader
end PreAggregation
