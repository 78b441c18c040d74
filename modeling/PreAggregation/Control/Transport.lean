/-!
# Transports

Bytes are taken out of a source and put into a sink.  Those who use a transport rely on
two things: an exact number of bytes is taken whenever the source has as many, and what
is put in stands behind what is there.  A transport that blocks its user asks again when it
is interrupted, and one that is polled when it was not ready; of this its user sees nothing.
-/

namespace PreAggregation

/-- A way to take bytes out of sources. -/
structure ByteReader (σ : Type) where
  /-- The bytes that a source has still to give. -/
  ahead : σ → List UInt8
  /-- Takes a number of bytes.  There is no result if the source ends before. -/
  take : Nat → σ → Option (List UInt8) × σ
  /-- The bytes come in their order, and no others are used up. -/
  take_of_le : ∀ {count : Nat} {source : σ}, count ≤ (ahead source).length →
    (take count source).1 = some ((ahead source).take count) ∧
      ahead (take count source).2 = (ahead source).drop count
  /-- A source that has too few bytes ends before. -/
  take_of_lt : ∀ {count : Nat} {source : σ}, (ahead source).length < count →
    (take count source).1 = none

/-- A way to put bytes into sinks. -/
structure ByteWriter (σ : Type) where
  /-- The bytes that a sink has got. -/
  written : σ → List UInt8
  /-- Puts in some bytes. -/
  put : List UInt8 → σ → σ
  /-- Passes on what a sink holds back. -/
  flush : σ → σ
  /-- The bytes stand in their order behind those before. -/
  written_put : ∀ bytes sink, written (put bytes sink) = written sink ++ bytes
  written_flush : ∀ sink, written (flush sink) = written sink

/-- How an end of a transport answers a request to move bytes. -/
inductive Turn
  /-- It moves at most one more byte than this number. -/
  | moves (others : Nat)
  /-- It moves none, because it is interrupted or not ready. -/
  | interrupted
  deriving DecidableEq, Repr

namespace Turn

/-- How many bytes out of `room` are moved at the next turn, if it is not interrupted.
When no turns are left, all are. -/
def next (room : Nat) : List Turn → Option Nat
  | [] => some room
  | .moves others :: _ => some (min room (others + 1))
  | .interrupted :: _ => none

theorem length_tail_lt {room : Nat} {turns : List Turn} (interrupted : next room turns = none) :
    turns.tail.length < turns.length := by
  cases turns with
  | nil => simp [next] at interrupted
  | cons turn rest => exact Nat.lt_succ_self rest.length

theorem next_mem {room count : Nat} {turns : List Turn} (wanted : room ≠ 0)
    (moved : next room turns = some count) : 0 < count ∧ count ≤ room := by
  unfold next at moved
  split at moved
  · cases moved
    exact ⟨Nat.pos_of_ne_zero wanted, Nat.le_refl _⟩
  · cases moved
    omega
  · cases moved

/-- Some of the bytes that are there are moved. -/
theorem sub_length_take_lt {room count : Nat} {turns : List Turn} {bytes : List UInt8}
    (wanted : room ≠ 0) (moved : next room turns = some count) (present : bytes ≠ []) :
    room - (bytes.take count).length < room := by
  have bounds := next_mem wanted moved
  have long := List.length_pos_iff.mpr present
  rw [List.length_take]
  omega

end Turn

/-! ## Sources -/

/-- A source that gives its bytes in pieces. -/
structure Source where
  /-- The bytes that it has still to give. -/
  bytes : List UInt8
  /-- How it answers the next requests. -/
  turns : List Turn := []
  deriving DecidableEq, Repr

namespace Source

/-- The source behind a turn at which it gave so many bytes. -/
def after (source : Source) (count : Nat) : Source :=
  ⟨source.bytes.drop count, source.turns.tail⟩

/-- Asks for bytes until none are missing, behind those of `taken`.  A request that is
interrupted is made again.  One that gets no bytes has met the end of the source. -/
def fill (taken : List UInt8) (missing : Nat) (source : Source) : Option (List UInt8) × Source :=
  if complete : missing = 0 then (some taken, source)
  else
    match moved : Turn.next missing source.turns with
    | none =>
        have := Turn.length_tail_lt moved
        fill taken missing (source.after 0)
    | some count =>
        if ended : source.bytes = [] then (none, source.after count)
        else
          have := Turn.sub_length_take_lt complete moved ended
          fill (taken ++ source.bytes.take count) (missing - (source.bytes.take count).length)
            (source.after count)
termination_by (missing, source.turns.length)
decreasing_by
  · exact Prod.Lex.right _ this
  · exact Prod.Lex.left _ _ this

theorem fill_of_le {taken : List UInt8} {missing : Nat} {source : Source}
    (enough : missing ≤ source.bytes.length) :
    (fill taken missing source).1 = some (taken ++ source.bytes.take missing) ∧
      (fill taken missing source).2.bytes = source.bytes.drop missing := by
  fun_induction fill taken missing source with
  | case1 taken source => simp
  | case2 taken missing source incomplete interrupted shorter inductionHypothesis =>
      exact inductionHypothesis enough
  | case3 taken missing source incomplete count moved ended =>
      rw [ended, List.length_nil] at enough
      omega
  | case4 taken missing source incomplete count moved going fewer inductionHypothesis =>
      have bounds := Turn.next_mem incomplete moved
      have given : (source.bytes.take count).length = count := by
        rw [List.length_take]
        omega
      have split : count + (missing - count) = missing := by omega
      have left : missing - count ≤ (source.after count).bytes.length := by
        simp only [after, List.length_drop]
        omega
      rw [given] at inductionHypothesis ⊢
      obtain ⟨filled, rest⟩ := inductionHypothesis left
      rw [filled, rest, after, List.append_assoc, ← List.take_add, List.drop_drop, split]
      exact ⟨rfl, rfl⟩

theorem fill_of_lt {taken : List UInt8} {missing : Nat} {source : Source}
    (tooFew : source.bytes.length < missing) : (fill taken missing source).1 = none := by
  fun_induction fill taken missing source with
  | case1 taken source => exact absurd tooFew (Nat.not_lt_zero _)
  | case2 taken missing source incomplete interrupted shorter inductionHypothesis =>
      exact inductionHypothesis tooFew
  | case3 taken missing source incomplete count moved ended => rfl
  | case4 taken missing source incomplete count moved going fewer inductionHypothesis =>
      apply inductionHypothesis
      simp only [after, List.length_drop, List.length_take]
      have present := List.length_pos_iff.mpr going
      omega

/-- Bytes are taken by as many requests as it needs. -/
def reader : ByteReader Source where
  ahead := bytes
  take := fill []
  take_of_le := fill_of_le
  take_of_lt := fill_of_lt

end Source

/-! ## Sinks -/

/-- A sink that gets its bytes in pieces. -/
structure Sink where
  /-- The bytes that it has got. -/
  bytes : List UInt8
  /-- How it answers the next requests. -/
  turns : List Turn := []
  deriving DecidableEq, Repr

namespace Sink

/-- Hands in bytes until none are left.  A request that is interrupted is made again. -/
def push (bytes : List UInt8) (sink : Sink) : Sink :=
  if complete : bytes = [] then sink
  else
    match moved : Turn.next bytes.length sink.turns with
    | none =>
        have := Turn.length_tail_lt moved
        push bytes ⟨sink.bytes, sink.turns.tail⟩
    | some count =>
        have := Turn.next_mem (mt List.length_eq_zero_iff.mp complete) moved
        push (bytes.drop count) ⟨sink.bytes ++ bytes.take count, sink.turns.tail⟩
termination_by (bytes.length, sink.turns.length)
decreasing_by
  · exact Prod.Lex.right _ this
  · apply Prod.Lex.left
    rw [List.length_drop]
    omega

theorem bytes_push (bytes : List UInt8) (sink : Sink) :
    (push bytes sink).bytes = sink.bytes ++ bytes := by
  fun_induction push bytes sink with
  | case1 sink => exact (List.append_nil _).symm
  | case2 bytes sink incomplete interrupted shorter inductionHypothesis =>
      exact inductionHypothesis
  | case3 bytes sink incomplete count moved bounds inductionHypothesis =>
      rw [inductionHypothesis, List.append_assoc, List.take_append_drop]

/-- Bytes are put in by as many requests as it needs. -/
def writer : ByteWriter Sink where
  written := bytes
  put := push
  flush := id
  written_put := bytes_push
  written_flush _ := rfl

end Sink
end PreAggregation
