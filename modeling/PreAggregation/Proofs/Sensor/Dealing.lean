import Mathlib.Algebra.BigOperators.Fin
import Mathlib.Algebra.Order.BigOperators.Group.Finset
import PreAggregation.Sensor.Job

/-!
# Dealing and merging

The lines of a source are dealt to the tasks of a job in turn, so that each line is in
one share.  What the tasks send comes together in any order that keeps the order of each
task.
-/

namespace PreAggregation
namespace Sensor

/-! ## Shares -/

/-- Something that counts for one index counts once below a bound. -/
theorem sum_range_ite
    (bound chosen value : Nat) :
    ((List.range bound).map fun index => if chosen = index then value else 0).sum =
      if chosen < bound then value else 0 := by
  induction bound with
  | zero => rfl
  | succ bound inductionHypothesis =>
      rw [List.range_succ, List.map_append, List.sum_append, inductionHypothesis, List.map_cons,
        List.map_nil, List.sum_singleton]
      by_cases last : chosen = bound
      · rw [if_neg (by omega), if_pos last, if_pos (by omega), Nat.zero_add]
      · rw [if_neg last, Nat.add_zero]
        by_cases below : chosen < bound
        · rw [if_pos below, if_pos (by omega)]
        · rw [if_neg below, if_neg (by omega)]

/-- What a list amounts to is what its shares amount to together. -/
theorem sum_share
    {α : Type}
    {tasks : Nat}
    (positive : 0 < tasks)
    (weight : α → Nat)
    (items : List α) :
    ((List.range tasks).map fun index => ((share tasks index items).map weight).sum).sum =
      (items.map weight).sum := by
  have dealt (numbered : List (α × Nat)) :
      ((List.range tasks).map fun index =>
        (((numbered.filter fun item => item.2 % tasks = index).map Prod.fst).map weight).sum).sum =
      ((numbered.map Prod.fst).map weight).sum := by
    induction numbered with
    | nil => simp
    | cons item rest inductionHypothesis =>
        have own (index : Nat) :
            ((((item :: rest).filter fun item => item.2 % tasks = index).map Prod.fst).map
              weight).sum =
            (if item.2 % tasks = index then weight item.1 else 0) +
              (((rest.filter fun item => item.2 % tasks = index).map Prod.fst).map weight).sum := by
          by_cases mine : item.2 % tasks = index
          · rw [List.filter_cons_of_pos (by simpa using mine), if_pos mine]
            rfl
          · rw [List.filter_cons_of_neg (by simpa using mine), if_neg mine, Nat.zero_add]
        simp only [own]
        rw [List.sum_map_add, inductionHypothesis, sum_range_ite, if_pos (Nat.mod_lt _ positive)]
        rfl
  have restored : items.zipIdx.map Prod.fst = items := List.zipIdx_map_fst 0 items
  have whole := dealt items.zipIdx
  rw [restored] at whole
  exact whole

/-! ## Interleavings -/

/-- A list that takes from the fronts of some queues until all of them are empty. -/
inductive Interleaving {α : Type} : List (List α) → List α → Prop
  | done {queues : List (List α)} (empty : ∀ queue ∈ queues, queue = []) :
      Interleaving queues []
  | next {queues : List (List α)} {index : Nat} {item : α} {rest merged : List α}
      (front : queues[index]? = some (item :: rest))
      (later : Interleaving (queues.set index rest) merged) :
      Interleaving queues (item :: merged)

variable {α : Type}

/-- Taking the front of a queue takes one item of all. -/
theorem flatten_perm_of_front
    {queues : List (List α)}
    {index : Nat}
    {item : α}
    {rest : List α}
    (front : queues[index]? = some (item :: rest)) :
    (item :: (queues.set index rest).flatten).Perm queues.flatten := by
  induction queues generalizing index with
  | nil => exact absurd front (by simp)
  | cons queue others inductionHypothesis =>
      cases index with
      | zero =>
          rw [List.getElem?_cons_zero, Option.some.injEq] at front
          subst front
          exact List.Perm.refl _
      | succ index =>
          rw [List.getElem?_cons_succ] at front
          rw [List.set_cons_succ, List.flatten_cons, List.flatten_cons]
          calc
            (item :: (queue ++ (others.set index rest).flatten)).Perm
                (queue ++ item :: (others.set index rest).flatten) := List.perm_middle.symm
            _ |>.Perm (queue ++ others.flatten) := (inductionHypothesis front).append_left queue

/-- Nothing is lost or repeated. -/
theorem Interleaving.perm
    {queues : List (List α)}
    {merged : List α}
    (interleaving : Interleaving queues merged) :
    merged.Perm queues.flatten := by
  induction interleaving with
  | done empty => rw [List.flatten_eq_nil_iff.mpr empty]
  | next front later inductionHypothesis =>
      exact (inductionHypothesis.cons _).trans (flatten_perm_of_front front)

/-- What holds of the last item of every queue holds of the last of all. -/
theorem Interleaving.last
    {queues : List (List α)}
    {merged : List α}
    (interleaving : Interleaving queues merged)
    (ends : α → Prop)
    (all : ∀ queue ∈ queues, ∀ item ∈ queue.getLast?, ends item) :
    ∀ item ∈ merged.getLast?, ends item := by
  induction interleaving with
  | done empty => exact fun _ member => absurd member (Option.not_mem_none _)
  | @next queues index item rest merged front later inductionHypothesis =>
      have mine : ∀ last ∈ (item :: rest).getLast?, ends last :=
        all (item :: rest) (List.mem_of_getElem? front)
      intro last isLast
      cases merged with
      | nil =>
          cases later with
          | done empty =>
              have inside : index < queues.length := (List.getElem?_eq_some_iff.mp front).1
              obtain rfl : rest = [] := empty rest (List.mem_set inside rest)
              exact mine last isLast
      | cons second others =>
          apply inductionHypothesis _ last
          · rwa [List.getLast?_cons_cons] at isLast
          · intro queue member other isOther
            rcases List.mem_or_eq_of_mem_set member with old | rfl
            · exact all queue old other isOther
            · apply mine other
              cases queue with
              | nil => exact absurd isOther (Option.not_mem_none _)
              | cons first more => rwa [List.getLast?_cons_cons]

theorem Interleaving.cons_nil
    {queues : List (List α)}
    {merged : List α}
    (interleaving : Interleaving queues merged) :
    Interleaving ([] :: queues) merged := by
  induction interleaving with
  | done empty => exact .done (by simpa using empty)
  | @next queues index item rest merged front later inductionHypothesis =>
      have front : ([] :: queues)[index + 1]? = some (item :: rest) := front
      exact .next front inductionHypothesis

/-- The queues can be emptied one after another. -/
theorem interleaving_flatten
    (queues : List (List α)) :
    Interleaving queues queues.flatten := by
  induction queues with
  | nil => exact .done (by simp)
  | cons queue others inductionHypothesis =>
      induction queue with
      | nil => exact inductionHypothesis.cons_nil
      | cons item rest shorter =>
          have front : ((item :: rest) :: others)[0]? = some (item :: rest) := rfl
          exact .next front shorter

end Sensor
end PreAggregation
