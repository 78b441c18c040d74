import Mathlib.Data.List.Forall2
import PreAggregation.Proofs.Control.Streams

/-!
# Frames from one end to the other

Frames that are written one after another come out of the other end, equal and in their
order.  A frame that has no bytes leaves no trace, so what is written after it is read as
if it had never been there.
-/

namespace PreAggregation
namespace ByteWriter

variable {σ : Type}

theorem writeFrame_of_fits
    (writer : ByteWriter σ)
    {frame : Frame}
    (fits : frame.Fits)
    (sink : σ) :
    writer.writeFrame frame sink = (.ok (), writer.flush (writer.put frame.spelling sink)) := by
  rw [writeFrame, Frame.encode_eq_ok_iff.mpr ⟨fits, rfl⟩]

theorem writeFrame_of_not_fits
    (writer : ByteWriter σ)
    {frame : Frame}
    (unfit : ¬frame.Fits)
    (sink : σ) :
    ∃ fault, writer.writeFrame frame sink = (.error fault, sink) := by
  cases encoded : frame.encode with
  | ok bytes => exact absurd (Frame.encode_eq_ok_iff.mp encoded).1 unfit
  | error fault => exact ⟨fault, by rw [writeFrame, encoded]⟩

theorem writeFrames_cons
    (writer : ByteWriter σ)
    (frame : Frame)
    (rest : List Frame)
    (sink : σ) :
    writer.writeFrames (frame :: rest) sink =
      ((writer.writeFrame frame sink).1 ::
          (writer.writeFrames rest (writer.writeFrame frame sink).2).1,
        (writer.writeFrames rest (writer.writeFrame frame sink).2).2) :=
  rfl

theorem writeFrames_results
    (writer : ByteWriter σ)
    (frames : List Frame)
    (sink : σ) :
    List.Forall₂ (fun frame result => result = .ok () ↔ frame.Fits) frames
      (writer.writeFrames frames sink).1 := by
  induction frames generalizing sink with
  | nil => exact .nil
  | cons frame rest inductionHypothesis =>
      rw [writeFrames_cons]
      refine .cons ?_ (inductionHypothesis _)
      by_cases fits : frame.Fits
      · rw [writer.writeFrame_of_fits fits sink]
        exact iff_of_true rfl fits
      · obtain ⟨fault, failed⟩ := writer.writeFrame_of_not_fits fits sink
        rw [failed]
        exact iff_of_false (by simp) fits

/-- A sink gets the bytes of the frames that have some. -/
theorem written_writeFrames
    (writer : ByteWriter σ)
    (frames : List Frame)
    (sink : σ) :
    writer.written (writer.writeFrames frames sink).2 =
      writer.written sink ++ (frames.filter Frame.Fits).flatMap Frame.spelling := by
  induction frames generalizing sink with
  | nil => exact (List.append_nil _).symm
  | cons frame rest inductionHypothesis =>
      rw [writeFrames_cons, inductionHypothesis]
      by_cases fits : frame.Fits
      · rw [writer.writeFrame_of_fits fits, List.filter_cons_of_pos (by simpa using fits),
          List.flatMap_cons, writer.written_flush, writer.written_put, List.append_assoc]
      · obtain ⟨fault, failed⟩ := writer.writeFrame_of_not_fits fits sink
        rw [failed, List.filter_cons_of_neg (by simpa using fits)]

/-- The frames that have bytes are written, and no others; one that is not leaves its sink
as it is.  Whoever reads what was written gets the frames that were, and then the end.  If
only some of the bytes are there, these are the frames whose last byte is. -/
theorem readFrames_writeFrames
    {τ : Type}
    (writer : ByteWriter σ)
    (reader : ByteReader τ)
    {sink : σ}
    (unused : writer.written sink = [])
    (frames : List Frame) :
    let stream (frames : List Frame) := writer.written (writer.writeFrames frames sink).2
    let kept := frames.filter Frame.Fits
    List.Forall₂ (fun frame result => result = .ok () ↔ frame.Fits) frames
        (writer.writeFrames frames sink).1 ∧
      (∀ frame sink, ¬frame.Fits → ∃ fault, writer.writeFrame frame sink = (.error fault, sink)) ∧
      (∀ source, reader.ahead source = stream frames →
        (reader.readFrames source).frames = kept ∧
          (reader.readFrames source).fault = .incomplete) ∧
      ∀ cut source, reader.ahead source = (stream frames).take cut →
        ∃ count ≤ kept.length,
          (reader.readFrames source).frames = kept.take count ∧
          (reader.readFrames source).fault = .incomplete ∧
          ∀ number ≤ kept.length, number ≤ count ↔ (stream (kept.take number)).length ≤ cut := by
  intro stream kept
  have fit : ∀ frame ∈ kept, frame.Fits := fun frame mem =>
    of_decide_eq_true (List.mem_filter.mp mem).2
  have stream_eq (frames : List Frame) :
      stream frames = (frames.filter Frame.Fits).flatMap Frame.spelling := by
    rw [← List.nil_append (List.flatMap ..), ← unused]
    exact writer.written_writeFrames frames sink
  have filter_take (number : Nat) : (kept.take number).filter Frame.Fits = kept.take number :=
    List.filter_eq_self.mpr fun frame mem => decide_eq_true (fit frame (List.mem_of_mem_take mem))
  refine ⟨writer.writeFrames_results frames sink,
    fun frame sink unfit => writer.writeFrame_of_not_fits unfit sink, ?_, ?_⟩
  · intro source ahead_eq
    obtain ⟨frames_eq, fault_eq, _⟩ := reader.readFrames_eq source
    rw [ahead_eq, stream_eq] at frames_eq fault_eq
    obtain ⟨allRead, ended⟩ := Frame.readAll_spelled fit
    exact ⟨frames_eq.trans allRead, fault_eq.trans ended⟩
  · intro cut source ahead_eq
    obtain ⟨frames_eq, fault_eq, _⟩ := reader.readFrames_eq source
    rw [ahead_eq, stream_eq] at frames_eq fault_eq
    obtain ⟨count, few, someRead, ended, complete⟩ := Frame.readAll_take_spelled fit cut
    refine ⟨count, few, frames_eq.trans someRead, fault_eq.trans ended, fun number bound => ?_⟩
    rw [stream_eq, filter_take]
    exact complete number bound

/-- Of three frames the second is too large, and the last byte of the third is cut off.  Both
ends move few bytes at a time and are interrupted. -/
theorem readFrames_writeFrames_cut :
    let frames : List Frame :=
      [⟨.message, "t", [49]⟩, ⟨.publish, "t", List.replicate 65536 48⟩, ⟨.message, "t", [50]⟩]
    let sink : Sink := ⟨[], [.moves 2, .interrupted, .moves 0]⟩
    let source : Source :=
      ⟨[0, 0, 0, 5, 3, 0, 1, 116, 49, 0, 0, 0, 5, 3, 0, 1, 116], [.moves 0, .interrupted, .moves 6]⟩
    Source.reader.ahead source =
        (Sink.writer.written (Sink.writer.writeFrames frames sink).2).take 17 ∧
      (Source.reader.readFrames source).frames = [⟨.message, "t", [49]⟩] ∧
      (Source.reader.readFrames source).fault = .incomplete := by
  intro frames sink source
  have firstFits : (⟨.message, "t", [49]⟩ : Frame).Fits := by decide +kernel
  have lastFits : (⟨.message, "t", [50]⟩ : Frame).Fits := by decide +kernel
  have dropped (payload : List UInt8) (large : 65536 ≤ payload.length) :
      ¬(⟨.publish, "t", payload⟩ : Frame).Fits := by
    rintro ⟨-, small⟩
    simp only [Frame.bodyLength, Frame.maxLength] at small
    omega
  have kept_eq : frames.filter Frame.Fits = [⟨.message, "t", [49]⟩, ⟨.message, "t", [50]⟩] := by
    have tooLarge := dropped (List.replicate 65536 48) (Nat.le_of_eq List.length_replicate.symm)
    rw [List.filter_cons, if_pos (decide_eq_true firstFits), List.filter_cons,
      if_neg (mt of_decide_eq_true tooLarge), List.filter_cons, if_pos (decide_eq_true lastFits),
      List.filter_nil]
  have ahead_eq : Source.reader.ahead source =
      (Sink.writer.written (Sink.writer.writeFrames frames sink).2).take 17 := by
    rw [Sink.writer.written_writeFrames, kept_eq]
    decide +kernel
  have unused : Sink.writer.written sink = [] := rfl
  obtain ⟨_, _, _, cutOff⟩ := readFrames_writeFrames Sink.writer Source.reader unused frames
  obtain ⟨count, few, frames_eq, ended, complete⟩ := cutOff 17 source ahead_eq
  rw [kept_eq] at few frames_eq complete
  dsimp only at complete
  have one : 1 ≤ count := by
    rw [complete 1 (by decide), Sink.writer.written_writeFrames]
    decide +kernel
  have notTwo : ¬2 ≤ count := by
    rw [complete 2 (by decide), Sink.writer.written_writeFrames]
    decide +kernel
  obtain rfl : count = 1 := by omega
  exact ⟨ahead_eq, frames_eq, ended⟩

end ByteWriter
end PreAggregation
