import PreAggregation.Proofs.Operator.Elements

/-!
# Hooks that share a buffer

The hooks of an operator may be given one buffer, into which each writes its outputs
behind what the buffer holds.  A task empties the buffer when it has sent what a hook
wrote, and calls no hook behind one that failed.  So every hook finds the buffer empty,
and nothing that one hook wrote is ever sent for another.
-/

namespace PreAggregation

/-- Hooks that are handed a buffer with what it holds.  What a step emitted is what the
buffer holds behind it. -/
structure Writer (σ ι ο : Type) where
  /-- Called before the first record. -/
  start : Instant → Subtask → σ → Attempt σ
  /-- Handles some records. -/
  process : Instant → List ι → σ → List ο → Step σ ο
  /-- A time is reached. -/
  timer : Instant → TimerDomain → Int → σ → List ο → Step σ ο
  /-- There are no more records. -/
  finish : Instant → σ → List ο → Step σ ο
  /-- Called behind everything else. -/
  stop : Instant → σ → Attempt σ

namespace Writer

variable {σ ι ο : Type}

/-- The operator whose hooks always find the buffer empty. -/
def operator (writer : Writer σ ι ο) : Operator σ ι ο where
  start := writer.start
  process now records state := writer.process now records state []
  timer now domain time state := writer.timer now domain time state []
  finish now state := writer.finish now state []
  stop := writer.stop

/-- What a hook leaves in the buffer once a task has sent what it wrote. -/
def leftover (step : Step σ ο) : List ο :=
  match step.result with
  | .ok () => []
  | .error _ => step.emitted

/-- Passes on what a step wrote and, behind it, a mark, and empties the buffer. -/
def drain
    (stats : TaskStats)
    (step : Step σ ο)
    (mark : Option (Element ο)) : Task.Progress σ ο × List ο :=
  (Task.forward true stats step mark, leftover step)

/-- Handles one element with the buffer. -/
def handle
    (writer : Writer σ ι ο)
    (now : Instant)
    (state : σ)
    (buffer : List ο)
    (stats : TaskStats) : Element ι → Task.Progress σ ο × List ο
  | .record value _ =>
      drain { stats with recordsIn := stats.recordsIn + 1 }
        (writer.process now [value] state buffer) none
  | .watermark time =>
      drain { stats with watermarks := stats.watermarks + 1 }
        (writer.timer now .eventTime time state buffer) (some (.watermark time))
  | .finished =>
      let (progress, buffer) := drain stats (writer.finish now state buffer) (some .finished)
      ({ progress with ended := true }, buffer)

/-- Handles elements up to the mark of the end or to the first failure, with one buffer for
all of them, behind the elements of `sent` in reverse. -/
def loopFrom
    (writer : Writer σ ι ο)
    (state : σ)
    (buffer : List ο)
    (stats : TaskStats)
    (sent : List (Element ο)) : List (Instant × Element ι) → Task.Run σ ι ο
  | [] => ⟨state, stats, sent.reverse, [], .error ⟨.channel .sendersGone, []⟩⟩
  | (now, element) :: rest =>
      let (progress, buffer) := writer.handle now state buffer stats element
      let sent := progress.sent.reverse ++ sent
      match progress.result with
      | .error error => ⟨progress.state, progress.stats, sent.reverse, Task.arrivals rest, .error error⟩
      | .ok () =>
          if progress.ended then
            ⟨progress.state, progress.stats, sent.reverse, Task.arrivals rest, .ok ()⟩
          else loopFrom writer progress.state buffer progress.stats sent rest

theorem snd_drain_of_ok
    {stats : TaskStats}
    {step : Step σ ο}
    {mark : Option (Element ο)}
    (succeeds : (drain stats step mark).1.result = .ok ()) :
    (drain stats step mark).2 = [] := by
  cases result : step.result with
  | error error =>
      simp only [drain, Task.forward, result] at succeeds
      exact absurd succeeds (by simp)
  | ok value => simp only [drain, leftover, result]

/-- From an empty buffer an element is handled as if there were no buffer, and if this
succeeds the buffer is empty again. -/
theorem handle_nil
    (writer : Writer σ ι ο)
    (now : Instant)
    (state : σ)
    (stats : TaskStats)
    (element : Element ι) :
    (writer.handle now state [] stats element).1 =
        Task.handle writer.operator true now state stats (.element element) ∧
      ((writer.handle now state [] stats element).1.result = .ok () →
        (writer.handle now state [] stats element).2 = []) := by
  cases element with
  | record value time => exact ⟨rfl, snd_drain_of_ok⟩
  | watermark time => exact ⟨rfl, snd_drain_of_ok⟩
  | finished => exact ⟨rfl, snd_drain_of_ok⟩

theorem loopFrom_nil
    (writer : Writer σ ι ο)
    (state : σ)
    (stats : TaskStats)
    (sent : List (Element ο))
    (timed : List (Instant × Element ι)) :
    writer.loopFrom state [] stats sent timed =
      Task.loopFrom writer.operator true state stats sent (Task.arrivals timed) := by
  induction timed generalizing state stats sent with
  | nil => rfl
  | cons head rest inductionHypothesis =>
      obtain ⟨now, element⟩ := head
      obtain ⟨handled, emptied⟩ := writer.handle_nil now state stats element
      simp only [loopFrom, Task.arrivals, List.map_cons, Task.loopFrom, ← handled]
      cases result : (writer.handle now state [] stats element).1.result with
      | error error => rfl
      | ok value =>
          cases value
          rw [emptied result]
          dsimp only
          split
          · rfl
          · exact inductionHypothesis _ _ _

end Writer
end PreAggregation
