import PreAggregation.Proofs.Operator.Steps

/-!
# Steps that match

Two steps match if they succeed or fail together and, where they succeed, emit the same
and leave states that are alike.  What stands behind a failure is not compared.
-/

namespace PreAggregation
namespace Step

variable {σ τ ρ ο μ : Type}

/-- Both steps fail, or both succeed with the same outputs and states that are alike. -/
structure Matches
    (alike : σ → τ → Prop)
    (first : Step σ ο)
    (second : Step τ ο) : Prop where
  /-- One succeeds where the other does. -/
  succeeds_iff : first.result = .ok () ↔ second.result = .ok ()
  /-- The outputs are the same. -/
  emitted_eq : first.result = .ok () → first.emitted = second.emitted
  /-- The states are alike. -/
  alike : first.result = .ok () → alike first.state second.state

theorem Matches.refl
    {alike : σ → σ → Prop}
    (reflexive : ∀ state, alike state state)
    (step : Step σ ο) :
    Matches alike step step where
  succeeds_iff := Iff.rfl
  emitted_eq _ := rfl
  alike _ := reflexive step.state

theorem Matches.of_eq
    {first second : Step σ ο}
    (same : first = second) :
    Matches Eq first second :=
  same ▸ Matches.refl (fun _ => rfl) first

theorem Matches.mono
    {alike weaker : σ → τ → Prop}
    (implies : ∀ {state other}, alike state other → weaker state other)
    {first : Step σ ο}
    {second : Step τ ο}
    (matched : Matches alike first second) :
    Matches weaker first second where
  succeeds_iff := matched.succeeds_iff
  emitted_eq := matched.emitted_eq
  alike succeeds := implies (matched.alike succeeds)

theorem Matches.trans
    {between : σ → τ → Prop}
    {beyond : τ → ρ → Prop}
    {across : σ → ρ → Prop}
    {first : Step σ ο}
    {second : Step τ ο}
    {third : Step ρ ο}
    (composes : ∀ {a b c}, between a b → beyond b c → across a c)
    (former : Matches between first second)
    (latter : Matches beyond second third) :
    Matches across first third where
  succeeds_iff := former.succeeds_iff.trans latter.succeeds_iff
  emitted_eq succeeds :=
    (former.emitted_eq succeeds).trans (latter.emitted_eq (former.succeeds_iff.mp succeeds))
  alike succeeds :=
    composes (former.alike succeeds) (latter.alike (former.succeeds_iff.mp succeeds))

/-- A step that equals the first up to failures matches what the first matches. -/
theorem Matches.of_eq_left
    {alike : σ → τ → Prop}
    {same first : Step σ ο}
    {second : Step τ ο}
    (equal : Matches Eq same first)
    (matched : Matches alike first second) :
    Matches alike same second := by
  apply equal.trans ?_ matched
  rintro state _ other rfl related
  exact related

theorem Matches.of_eq_right
    {alike : σ → τ → Prop}
    {first : Step σ ο}
    {second same : Step τ ο}
    (matched : Matches alike first second)
    (equal : Matches Eq same second) :
    Matches alike first same where
  succeeds_iff := matched.succeeds_iff.trans equal.succeeds_iff.symm
  emitted_eq succeeds := by
    have otherSucceeds := equal.succeeds_iff.mpr (matched.succeeds_iff.mp succeeds)
    rw [matched.emitted_eq succeeds, equal.emitted_eq otherSucceeds]
  alike succeeds := by
    have otherSucceeds := equal.succeeds_iff.mpr (matched.succeeds_iff.mp succeeds)
    rw [equal.alike otherSucceeds]
    exact matched.alike succeeds

theorem Matches.of_errors
    {alike : σ → τ → Prop}
    {first : Step σ ο}
    {second : Step τ ο}
    (fails : first.result ≠ .ok ())
    (otherFails : second.result ≠ .ok ()) :
    Matches alike first second where
  succeeds_iff := iff_of_false fails otherFails
  emitted_eq succeeds := absurd succeeds fails
  alike succeeds := absurd succeeds fails

/-- Steps that match can be followed by steps that match. -/
theorem Matches.andThen
    {alike : σ → τ → Prop}
    {first : Step σ ο}
    {second : Step τ ο}
    {next : σ → Step σ ο}
    {otherNext : τ → Step τ ο}
    (matched : Matches alike first second)
    (later : first.result = .ok () → Matches alike (next first.state) (otherNext second.state)) :
    Matches alike (first.andThen next) (second.andThen otherNext) := by
  cases result : first.result with
  | error error =>
      have fails : second.result ≠ .ok () := by
        rw [Ne, ← matched.succeeds_iff, result]
        simp
      apply Matches.of_errors
      · rw [Ne, result_andThen_eq_ok_iff, result]
        simp
      · rw [Ne, result_andThen_eq_ok_iff]
        exact fun succeeds => fails succeeds.1
  | ok value =>
      have otherResult := matched.succeeds_iff.mp result
      have latter := later result
      rw [andThen_of_ok result, andThen_of_ok otherResult]
      refine ⟨latter.succeeds_iff, ?_, latter.alike⟩
      intro succeeds
      rw [matched.emitted_eq result, latter.emitted_eq succeeds]

/-! ## Steps that feed other steps -/

/-- A step and then one of another state.  The second is not made if the first failed, and
what the first emitted is not passed on. -/
def feeding
    (head : Step σ μ)
    (state : τ)
    (next : τ → Step τ ο) : Step (σ × τ) ο :=
  match head.result with
  | .error error => { state := (head.state, state), result := .error error }
  | .ok () => (next state).mapState (head.state, ·)

theorem feeding_of_ok
    {head : Step σ μ}
    (succeeded : head.result = .ok ())
    (state : τ)
    (next : τ → Step τ ο) :
    head.feeding state next = (next state).mapState (head.state, ·) := by
  simp only [feeding, succeeded]

theorem result_feeding_eq_ok_iff
    (head : Step σ μ)
    (state : τ)
    (next : τ → Step τ ο) :
    (head.feeding state next).result = .ok () ↔
      head.result = .ok () ∧ (next state).result = .ok () := by
  unfold feeding
  split
  · rename_i error failed
    simp [failed]
  · rename_i succeeded
    simp [succeeded, mapState]

/-- Steps that feed others match if they succeed together, leave states that are alike,
and the fed steps match. -/
theorem matches_feeding
    {headAlike : σ → σ → Prop}
    {tailAlike : τ → τ → Prop}
    {head : Step σ μ}
    {other : Step σ ρ}
    {state otherState : τ}
    {next otherNext : τ → Step τ ο}
    (succeeds_iff : head.result = .ok () ↔ other.result = .ok ())
    (alike : head.result = .ok () → headAlike head.state other.state)
    (later : head.result = .ok () → Matches tailAlike (next state) (otherNext otherState)) :
    Matches (fun first second => headAlike first.1 second.1 ∧ tailAlike first.2 second.2)
      (head.feeding state next) (other.feeding otherState otherNext) := by
  cases result : head.result with
  | error error =>
      have fails : other.result ≠ .ok () := by
        rw [Ne, ← succeeds_iff, result]
        simp
      apply Matches.of_errors
      · rw [Ne, result_feeding_eq_ok_iff, result]
        simp
      · rw [Ne, result_feeding_eq_ok_iff]
        exact fun succeeds => fails succeeds.1
  | ok value =>
      have latter := later result
      rw [feeding_of_ok result, feeding_of_ok (succeeds_iff.mp result)]
      refine ⟨latter.succeeds_iff, latter.emitted_eq, ?_⟩
      intro succeeds
      exact ⟨alike result, latter.alike succeeds⟩

/-- Feeding with all of two steps at once is feeding with the first and then with the
second, if the fed operator does not mind. -/
theorem matches_feeding_andThen
    {head : Step σ μ}
    {later : σ → Step σ μ}
    {state : τ}
    {whole first : τ → Step τ ο}
    (second : σ → τ → Step τ ο)
    (splits : head.result = .ok () →
      Matches Eq (whole state) ((first state).andThen (second head.state))) :
    Matches Eq ((head.andThen later).feeding state whole)
      ((head.feeding state first).andThen fun both =>
        (later both.1).feeding both.2 (second both.1)) := by
  cases result : head.result with
  | error error =>
      apply Matches.of_errors
      · rw [andThen_of_error result, Ne, result_feeding_eq_ok_iff, result]
        simp
      · rw [Ne, result_andThen_eq_ok_iff, result_feeding_eq_ok_iff, result]
        simp
  | ok value =>
      have split := splits result
      rw [andThen_of_ok result, feeding_of_ok result]
      cases laterResult : (later head.state).result with
      | error error =>
          apply Matches.of_errors
          · rw [Ne, result_feeding_eq_ok_iff]
            simp
          · rw [Ne, result_andThen_eq_ok_iff, result_feeding_eq_ok_iff]
            intro succeeds
            exact absurd (laterResult.symm.trans succeeds.2.1) (by simp)
      | ok value =>
          rw [feeding_of_ok rfl]
          cases firstResult : (first state).result with
          | error error =>
              apply Matches.of_errors
              · intro succeeds
                have impossible := split.succeeds_iff.mp succeeds
                rw [result_andThen_eq_ok_iff, firstResult] at impossible
                exact absurd impossible.1 (by simp)
              · rw [Ne, result_andThen_eq_ok_iff]
                exact fun succeeds => absurd (firstResult.symm.trans succeeds.1) (by simp)
          | ok value =>
              rw [andThen_of_ok firstResult] at split
              have fed : ((first state).mapState (head.state, ·)).result = .ok () := firstResult
              rw [andThen_of_ok fed]
              simp only [mapState, feeding_of_ok laterResult]
              refine ⟨split.succeeds_iff, split.emitted_eq, ?_⟩
              intro succeeds
              exact congrArg ((later head.state).state, ·) (split.alike succeeds)

end Step
end PreAggregation
