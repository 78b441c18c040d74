import PreAggregation.Operator.Chain
import PreAggregation.Proofs.Operator.Steps

/-!
# The books of an operator

An operator keeps its books if no hook fails, and if behind every hook what was emitted
and what is held amount to what was held before and what has arrived.  A stage behind a
function that turns records into others keeps the books of the stage.
-/

namespace PreAggregation

/-- What an operator accounts for. -/
structure Books (σ ο μ : Type) where
  /-- What a state holds. -/
  held : σ → μ
  /-- What an output is worth. -/
  value : ο → μ
  /-- The states in which the operator can be. -/
  sound : σ → Prop
  /-- The outputs that it can emit. -/
  proper : ο → Prop

/-- The books of a state that is part of another one. -/
def Books.within
    {σ τ ο μ : Type}
    (books : Books σ ο μ)
    (part : τ → σ) : Books τ ο μ :=
  ⟨fun state => books.held (part state), books.value, fun state => books.sound (part state),
    books.proper⟩

namespace Step

variable {σ τ ι ο μ : Type} [AddCommMonoid μ] {books : Books σ ο μ}

/-- A step succeeds and accounts for what was held before and for what has arrived. -/
structure Settles
    (books : Books σ ο μ)
    (before : σ)
    (arrived : μ)
    (step : Step σ ο) : Prop where
  succeeds : step.result = .ok ()
  /-- What was emitted and is held amounts to what was held and has arrived. -/
  balanced : (step.emitted.map books.value).sum + books.held step.state =
    books.held before + arrived
  sound : books.sound step.state
  proper : ∀ output ∈ step.emitted, books.proper output

/-- A step that does nothing but leave a state that holds the same. -/
theorem settles_idle
    {before after : σ}
    (sound : books.sound after)
    (same : books.held after = books.held before) :
    Settles books before 0 { state := after } where
  succeeds := rfl
  balanced := by
    rw [List.map_nil, List.sum_nil, zero_add, add_zero, same]
  sound := sound
  proper _ member := absurd member List.not_mem_nil

theorem Settles.andThen
    {before : σ}
    {arrived later : μ}
    {step : Step σ ο}
    {next : σ → Step σ ο}
    (first : Settles books before arrived step)
    (second : Settles books step.state later (next step.state)) :
    Settles books before (arrived + later) (step.andThen next) where
  succeeds := (result_andThen_eq_ok_iff step next).mpr ⟨first.succeeds, second.succeeds⟩
  balanced := by
    have account : Balanced books.value books.held before (arrived + later) (step.andThen next) :=
      Balanced.andThen (fun _ => first.balanced) (fun _ => second.balanced)
    exact account ((result_andThen_eq_ok_iff step next).mpr ⟨first.succeeds, second.succeeds⟩)
  sound := by
    rw [andThen_of_ok first.succeeds]
    exact second.sound
  proper output member := by
    rw [andThen_of_ok first.succeeds] at member
    rcases List.mem_append.mp member with early | late
    · exact first.proper output early
    · exact second.proper output late

theorem Settles.each
    {arrived : ι → μ}
    {make : ι → σ → Step σ ο}
    (settles : ∀ item {state}, books.sound state →
      Settles books state (arrived item) (make item state))
    (items : List ι)
    {state : σ}
    (sound : books.sound state) :
    Settles books state (items.map arrived).sum (Step.each make items state) := by
  induction items generalizing state with
  | nil => exact settles_idle sound rfl
  | cons item rest inductionHypothesis =>
      have first := settles item sound
      rw [each_cons, List.map_cons, List.sum_cons]
      exact first.andThen (inductionHypothesis first.sound)

/-- The step of a part settles the books of the part. -/
theorem Settles.mapState
    {part : τ → σ}
    {embed : σ → τ}
    {before : τ}
    {arrived : μ}
    {step : Step σ ο}
    (settles : Settles books (part before) arrived step)
    (restores : ∀ state, part (embed state) = state) :
    Settles (books.within part) before arrived (step.mapState embed) where
  succeeds := settles.succeeds
  balanced := by
    have account := settles.balanced
    rw [← restores step.state] at account
    exact account
  sound := by
    have sound := settles.sound
    rw [← restores step.state] at sound
    exact sound
  proper := settles.proper

end Step

namespace Operator

variable {σ τ ι ω ο μ : Type} [AddCommMonoid μ]

/-- An operator keeps its books, where each record is worth its weight. -/
structure Accountable
    (operator : Operator σ ι ο)
    (books : Books σ ο μ)
    (weight : ι → μ) : Prop where
  /-- A new session holds nothing. -/
  start : ∀ now subtask state,
    (operator.start now subtask state).result = .ok () ∧
      books.held (operator.start now subtask state).state = 0 ∧
      books.sound (operator.start now subtask state).state
  /-- The records are accounted for by their weights. -/
  process : ∀ now records {state}, books.sound state →
    (operator.process now records state).Settles books state (records.map weight).sum
  /-- Nothing arrives with a timer. -/
  timer : ∀ now domain time {state}, books.sound state →
    (operator.timer now domain time state).Settles books state 0
  /-- Nothing arrives with the end. -/
  finish : ∀ now {state}, books.sound state →
    (operator.finish now state).Settles books state 0
  /-- Behind the end nothing is held. -/
  released : ∀ now {state}, books.sound state → books.held (operator.finish now state).state = 0
  /-- Closing succeeds. -/
  stop : ∀ now state, (operator.stop now state).result = .ok ()

/-- What a head emits is accounted for by the operator that it is handed to. -/
theorem Accountable.handOver
    {tail : Operator τ ω ο}
    {books : Books τ ο μ}
    {weight : ω → μ}
    (accountable : tail.Accountable books weight)
    (now : Instant)
    {head : Step σ ω}
    (succeeds : head.result = .ok ())
    {before : σ × τ}
    (sound : books.sound before.2) :
    (tail.handOver now head before.2).Settles (books.within Prod.snd) before
      (head.emitted.map weight).sum := by
  unfold Operator.handOver
  rw [succeeds]
  dsimp only
  split
  · rename_i nothing
    rw [List.isEmpty_iff.mp nothing]
    exact Step.settles_idle sound rfl
  · exact Step.Settles.mapState (accountable.process now head.emitted sound) fun _ => rfl

/-- Behind a function that turns records into others, an operator keeps its books.  A
record is worth what the others are. -/
theorem Accountable.chain_flatMap
    {tail : Operator τ ω ο}
    {books : Books τ ο μ}
    {weight : ω → μ}
    (accountable : tail.Accountable books weight)
    (f : ι → List ω) :
    ((Operator.flatMap f).chain tail).Accountable (books.within Prod.snd)
      fun record => ((f record).map weight).sum := by
  -- At a timer and at the end the function releases nothing, and the tail does the rest.
  have behind (now : Instant) {state : Unit × τ} (sound : books.sound state.2)
      {hook : τ → Step τ ο} (settles : ∀ {state}, books.sound state →
        (hook state).Settles books state 0) :
      ((tail.handOver now { state := state.1 } state.2).andThen fun state =>
        (hook state.2).mapState (state.1, ·)).Settles (books.within Prod.snd) state 0 := by
    let quiet : Step Unit ω := { state := state.1 }
    have first : (tail.handOver now quiet state.2).Settles (books.within Prod.snd) state
        (quiet.emitted.map weight).sum :=
      accountable.handOver now rfl sound
    have second : ((hook (tail.handOver now quiet state.2).state.2).mapState
        ((tail.handOver now quiet state.2).state.1, ·)).Settles (books.within Prod.snd)
        (tail.handOver now quiet state.2).state 0 :=
      Step.Settles.mapState (settles first.sound) fun _ => rfl
    have both : ((tail.handOver now quiet state.2).andThen fun state =>
        (hook state.2).mapState (state.1, ·)).Settles (books.within Prod.snd) state
        ((quiet.emitted.map weight).sum + 0) :=
      first.andThen second
    rwa [add_zero] at both
  refine ⟨?_, ?_, ?_, ?_, ?_, ?_⟩
  · intro now subtask state
    exact accountable.start now subtask state.2
  · intro now records state sound
    have weights : (records.map fun record => ((f record).map weight).sum).sum =
        ((records.flatMap f).map weight).sum := by
      rw [List.map_flatMap, List.flatMap, List.sum_flatten, List.map_map]
      rfl
    rw [weights]
    have succeeds : ((Operator.flatMap f).process now records state.1).result = .ok () := rfl
    exact accountable.handOver now succeeds sound
  · intro now domain time state sound
    exact behind now sound fun still => accountable.timer now domain time still
  · intro now state sound
    exact behind now sound fun still => accountable.finish now still
  · intro now state sound
    exact accountable.released now sound
  · intro now state
    exact accountable.stop now state.2

end Operator
end PreAggregation
