import PreAggregation.Operator.Basic

/-!
# Chains

Two operators back to back: what the head emits is handled by the tail at once.  At a
timer and at the end the tail gets what the head releases before its own hook runs.
-/

namespace PreAggregation
namespace Operator

variable {σ τ ι μ ο : Type}

/-- Hands what a step of the head emitted to the tail.  Nothing is handed on where the
head failed or emitted nothing. -/
def handOver (tail : Operator τ μ ο) (now : Instant) (head : Step σ μ) (state : τ) :
    Step (σ × τ) ο :=
  match head.result with
  | .error error => { state := (head.state, state), result := .error error }
  | .ok () =>
      if head.emitted.isEmpty then { state := (head.state, state) }
      else (tail.process now head.emitted state).mapState (head.state, ·)

/-- The chain of two operators. -/
def chain (head : Operator σ ι μ) (tail : Operator τ μ ο) : Operator (σ × τ) ι ο where
  start now subtask state :=
    let first := head.start now subtask state.1
    match first.result with
    | .error error => ⟨(first.state, state.2), .error error⟩
    | .ok () =>
        let second := tail.start now subtask state.2
        ⟨(first.state, second.state), second.result⟩
  process now items state := tail.handOver now (head.process now items state.1) state.2
  timer now domain time state :=
    (tail.handOver now (head.timer now domain time state.1) state.2).andThen
      fun state => (tail.timer now domain time state.2).mapState (state.1, ·)
  finish now state :=
    (tail.handOver now (head.finish now state.1) state.2).andThen
      fun state => (tail.finish now state.2).mapState (state.1, ·)
  stop now state :=
    let first := head.stop now state.1
    let second := tail.stop now state.2
    ⟨(first.state, second.state), first.result.bind fun _ => second.result⟩

end Operator
end PreAggregation
