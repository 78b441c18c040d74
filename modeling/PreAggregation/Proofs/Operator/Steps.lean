import Mathlib.Algebra.BigOperators.Group.List.Basic
import PreAggregation.Operator.Basic

/-!
# Steps that keep their books

A step is balanced when what it emitted and what its state holds amount to what the
state held before together with what arrived.  Balance passes from single steps to
steps behind one another and to steps over many items.
-/

namespace PreAggregation
namespace Step

variable {σ τ ι ο μ : Type}

/-! ## Steps behind one another -/

theorem result_andThen_eq_ok_iff
    (step : Step σ ο)
    (next : σ → Step σ ο) :
    (step.andThen next).result = .ok () ↔
      step.result = .ok () ∧ (next step.state).result = .ok () := by
  unfold andThen
  split
  · rename_i error failed
    simp [failed]
  · rename_i succeeded
    simp [succeeded]

theorem andThen_of_ok
    {step : Step σ ο}
    (succeeded : step.result = .ok ())
    (next : σ → Step σ ο) :
    step.andThen next =
      ⟨(next step.state).state, step.emitted ++ (next step.state).emitted,
        (next step.state).result⟩ := by
  simp only [andThen, succeeded]

theorem andThen_of_error
    {step : Step σ ο}
    {error : Error}
    (failed : step.result = .error error)
    (next : σ → Step σ ο) :
    step.andThen next = step := by
  simp only [andThen, failed]

theorem andThen_assoc
    (step : Step σ ο)
    (second third : σ → Step σ ο) :
    (step.andThen second).andThen third =
      step.andThen fun state => (second state).andThen third := by
  cases first : step.result with
  | error error => rw [andThen_of_error first, andThen_of_error first, andThen_of_error first]
  | ok value =>
      cases next : (second step.state).result with
      | error error => simp only [andThen, first, next]
      | ok value => simp only [andThen, first, next, List.append_assoc]

/-- Steps behind one another can be seen as part of another state one by one. -/
theorem mapState_andThen
    (step : Step σ ο)
    (next : σ → Step σ ο)
    {embed : σ → τ}
    {image : τ → Step τ ο}
    (commutes : ∀ state, image (embed state) = (next state).mapState embed) :
    (step.andThen next).mapState embed = (step.mapState embed).andThen image := by
  cases result : step.result with
  | error error => simp only [andThen, mapState, result]
  | ok value => simp only [andThen, mapState, result, commutes]

/-- A batch in two parts is the first part and then the second. -/
theorem each_append
    (make : ι → σ → Step σ ο)
    (first second : List ι)
    (state : σ) :
    each make (first ++ second) state = (each make first state).andThen (each make second) := by
  induction first generalizing state with
  | nil =>
      rw [List.nil_append, each_nil, andThen_of_ok rfl]
      rfl
  | cons item rest inductionHypothesis =>
      rw [List.cons_append, each_cons, each_cons, andThen_assoc]
      congr 1
      funext next
      exact inductionHypothesis next

@[simp] theorem each_singleton
    (make : ι → σ → Step σ ο)
    (item : ι)
    (state : σ) :
    each make [item] state = make item state := by
  rw [each_cons]
  cases result : (make item state).result with
  | error error => exact andThen_of_error result _
  | ok value =>
      rw [andThen_of_ok result]
      simp only [each_nil, List.append_nil, ← result]

theorem result_each
    {make : ι → σ → Step σ ο}
    (succeeds : ∀ item state, (make item state).result = .ok ())
    (items : List ι)
    (state : σ) :
    (each make items state).result = .ok () := by
  induction items generalizing state with
  | nil => rfl
  | cons item rest inductionHypothesis =>
      rw [each_cons, result_andThen_eq_ok_iff]
      exact ⟨succeeds item state, inductionHypothesis _⟩

/-! ## Balance -/

variable [AddCommMonoid μ]

/-- A step that succeeded accounts for what the state held before and for what
arrived. -/
def Balanced
    (value : ο → μ)
    (held : σ → μ)
    (before : σ)
    (arrived : μ)
    (step : Step σ ο) : Prop :=
  step.result = .ok () →
    (step.emitted.map value).sum + held step.state = held before + arrived

theorem Balanced.andThen
    {value : ο → μ}
    {held : σ → μ}
    {before : σ}
    {arrived later : μ}
    {step : Step σ ο}
    {next : σ → Step σ ο}
    (first : Balanced value held before arrived step)
    (second : Balanced value held step.state later (next step.state)) :
    Balanced value held before (arrived + later) (step.andThen next) := by
  intro succeeds
  obtain ⟨firstSucceeds, secondSucceeds⟩ := (result_andThen_eq_ok_iff step next).mp succeeds
  rw [andThen_of_ok firstSucceeds]
  calc
    ((step.emitted ++ (next step.state).emitted).map value).sum + held (next step.state).state =
        (step.emitted.map value).sum +
          (((next step.state).emitted.map value).sum + held (next step.state).state) := by
      rw [List.map_append, List.sum_append, add_assoc]
    _ = (step.emitted.map value).sum + held step.state + later := by
      rw [second secondSucceeds, add_assoc]
    _ = held before + (arrived + later) := by
      rw [first firstSucceeds, add_assoc]

theorem Balanced.each
    {value : ο → μ}
    {held : σ → μ}
    {arrived : ι → μ}
    {make : ι → σ → Step σ ο}
    (balanced : ∀ item state, Balanced value held state (arrived item) (make item state))
    (items : List ι)
    (state : σ) :
    Balanced value held state (items.map arrived).sum (Step.each make items state) := by
  induction items generalizing state with
  | nil =>
      intro _
      simp
  | cons item rest inductionHypothesis =>
      rw [each_cons, List.map_cons, List.sum_cons]
      exact (balanced item state).andThen (inductionHypothesis _)

end Step
end PreAggregation
