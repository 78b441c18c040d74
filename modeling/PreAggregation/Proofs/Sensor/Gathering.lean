import PreAggregation.Proofs.Bundle.Keys
import PreAggregation.Proofs.Operator.Accounts
import PreAggregation.Proofs.Sensor.Dealing
import PreAggregation.Proofs.Stage.Books
import Mathlib.Data.List.Induction

/-!
# What is gathered from the tasks

The gathering waits for the ends of all tasks and adds up the partials that come before.
Under every sensor the averages amount to the partials, in whatever order these come.
-/

namespace PreAggregation
namespace Bundle

variable {κ ν : Type} [DecidableEq κ]

open Aggregation

theorem total_eq_zero_of_notMem
    (measure : ν → Nat)
    {entries : List (κ × ν)}
    {key : κ}
    (absent : key ∉ entries.map Prod.fst) :
    total measure key entries = 0 := by
  apply List.sum_eq_zero
  intro amount among
  obtain ⟨entry, present, rfl⟩ := List.mem_map.mp among
  have different : entry.1 ≠ key := by
    intro same
    exact absent (List.mem_map.mpr ⟨entry, present, same⟩)
  exact if_neg different

/-- Where no key stands twice, the total under a key is that of its entry. -/
theorem total_eq_of_mem
    (measure : ν → Nat)
    {entries : List (κ × ν)}
    (distinct : (entries.map Prod.fst).Nodup)
    {entry : κ × ν}
    (member : entry ∈ entries) :
    total measure entry.1 entries = measure entry.2 := by
  induction entries with
  | nil => exact absurd member List.not_mem_nil
  | cons head rest inductionHypothesis =>
      rw [List.map_cons, List.nodup_cons] at distinct
      rw [total_cons]
      rcases List.mem_cons.mp member with rfl | later
      · rw [total_eq_zero_of_notMem measure distinct.1, share, if_pos rfl, Nat.add_zero]
      · have different : head.1 ≠ entry.1 := by
          intro same
          exact distinct.1 (List.mem_map.mpr ⟨entry, later, same.symm⟩)
        rw [share, if_neg different, Nat.zero_add]
        exact inductionHypothesis distinct.2 later

/-- The totals under all keys amount to the whole. -/
theorem sum_total
    (measure : ν → Nat)
    (entries : List (κ × ν))
    {keys : Finset κ}
    (covered : ∀ entry ∈ entries, entry.1 ∈ keys) :
    ∑ key ∈ keys, total measure key entries = (entries.map fun entry => measure entry.2).sum := by
  induction entries with
  | nil => exact Finset.sum_const_zero
  | cons entry rest inductionHypothesis =>
      simp only [total_cons, Finset.sum_add_distrib]
      rw [inductionHypothesis fun other among => covered other (List.mem_cons_of_mem _ among),
        List.map_cons, List.sum_cons]
      simp only [share]
      rw [Finset.sum_ite_eq, if_pos (covered entry List.mem_cons_self)]

/-- Lists that amount to the same under every key amount to the same as a whole. -/
theorem sum_eq_of_total_eq
    {υ : Type}
    (measure : ν → Nat)
    (other : υ → Nat)
    {entries : List (κ × ν)}
    {others : List (κ × υ)}
    (equal : ∀ key, total measure key entries = total other key others) :
    (entries.map fun entry => measure entry.2).sum =
      (others.map fun entry => other entry.2).sum := by
  let keys : Finset κ := (entries.map Prod.fst ++ others.map Prod.fst).toFinset
  have first : ∀ entry ∈ entries, entry.1 ∈ keys := by
    intro entry member
    rw [List.mem_toFinset]
    exact List.mem_append_left _ (List.mem_map_of_mem member)
  have second : ∀ entry ∈ others, entry.1 ∈ keys := by
    intro entry member
    rw [List.mem_toFinset]
    exact List.mem_append_right _ (List.mem_map_of_mem member)
  rw [← sum_total measure entries first, ← sum_total other others second]
  exact Finset.sum_congr rfl fun key _ => equal key

end Bundle

namespace Sensor
namespace Gathered

open Aggregation

/-- What was gathered from some elements. -/
structure Reflects
    (gathered : Gathered)
    (elements : List (Element (Id × SumCount))) : Prop where
  partials_eq : gathered.partials = (elements.filterMap Element.value?).length
  ended_eq : gathered.ended = elements.countP Element.isFinished
  /-- No sensor stands twice. -/
  distinct : (gathered.averages.entries.map Prod.fst).Nodup
  /-- Under every sensor the averages amount to the partials. -/
  total_eq : ∀ sensor, total SumCount.count sensor gathered.averages.entries =
    total SumCount.count sensor (elements.filterMap Element.value?)
  /-- Averages of something are averages of something. -/
  positive : (∀ partial_ ∈ elements.filterMap Element.value?, 1 ≤ partial_.2.count) →
    ∀ entry ∈ gathered.averages.entries, 1 ≤ entry.2.count

theorem reflects_nothing : Reflects {} [] where
  partials_eq := rfl
  ended_eq := rfl
  distinct := List.nodup_nil
  total_eq _ := rfl
  positive _ _ member := absurd member List.not_mem_nil

theorem Reflects.add
    {gathered : Gathered}
    {elements : List (Element (Id × SumCount))}
    (reflects : Reflects gathered elements)
    (element : Element (Id × SumCount)) :
    Reflects (gathered.add element) (elements ++ [element]) := by
  have values : (elements ++ [element]).filterMap Element.value? =
      elements.filterMap Element.value? ++ element.value?.toList := by
    rw [List.filterMap_append]
    cases element <;> rfl
  have ends : (elements ++ [element]).countP Element.isFinished =
      elements.countP Element.isFinished + if element.isFinished then 1 else 0 := by
    rw [List.countP_append, List.countP_singleton]
  cases element with
  | watermark time =>
      rw [Element.value?, Option.toList_none, List.append_nil] at values
      refine ⟨?_, ends ▸ reflects.ended_eq, reflects.distinct, ?_, ?_⟩
      · rw [values]
        exact reflects.partials_eq
      · rw [values]
        exact reflects.total_eq
      · rw [values]
        exact reflects.positive
  | finished =>
      rw [Element.value?, Option.toList_none, List.append_nil] at values
      refine ⟨?_, ?_, reflects.distinct, ?_, ?_⟩
      · rw [values]
        exact reflects.partials_eq
      · rw [ends, ← reflects.ended_eq]
        rfl
      · rw [values]
        exact reflects.total_eq
      · rw [values]
        exact reflects.positive
  | record value time =>
      obtain ⟨sensor, partial_⟩ := value
      let merged := ((Bundle.lookup sensor gathered.averages.entries).getD .zero).merge partial_
      have adds : (gathered.add (.record (sensor, partial_) time)).averages.entries =
          Bundle.assign sensor merged gathered.averages.entries := rfl
      have counted : merged.count =
          (Bundle.lookup sensor gathered.averages.entries).elim 0 SumCount.count +
            partial_.count := by
        cases found : Bundle.lookup sensor gathered.averages.entries with
        | none => simp only [merged, found]; rfl
        | some current => simp only [merged, found]; rfl
      refine ⟨?_, ?_, ?_, ?_, ?_⟩
      · rw [values, List.length_append, ← reflects.partials_eq]
        rfl
      · rw [ends, ← reflects.ended_eq]
        rfl
      · rw [adds]
        exact Bundle.nodup_map_fst_assign sensor merged reflects.distinct
      · intro other
        rw [adds, total_assign SumCount.count counted, reflects.total_eq, values, total, total,
          List.map_append, List.sum_append]
        rfl
      · intro positive entry member
        rw [values] at positive
        rw [adds] at member
        rcases Bundle.mem_assign member with rfl | old
        · have own := positive (sensor, partial_) (List.mem_append_right _ List.mem_cons_self)
          dsimp only at own ⊢
          omega
        · exact reflects.positive
            (fun value among => positive value (List.mem_append_left _ among)) entry old

theorem reflects_foldl
    (elements : List (Element (Id × SumCount))) :
    Reflects (elements.foldl add {}) elements := by
  induction elements using List.reverseRecOn with
  | nil => exact reflects_nothing
  | append_singleton elements element inductionHypothesis =>
      rw [List.foldl_append]
      exact inductionHypothesis.add element

/-- Where the last of so many ends comes last, everything is gathered. -/
theorem untilEnded_eq_foldl
    {tasks : Nat}
    {gathered : Gathered}
    {front : List (Element (Id × SumCount))}
    (ends : gathered.ended + front.countP Element.isFinished + 1 = tasks) :
    untilEnded tasks gathered (front ++ [.finished]) =
      (front ++ [Element.finished]).foldl add gathered := by
  induction front generalizing gathered with
  | nil =>
      have waits : gathered.ended < tasks := by
        simp only [List.countP_nil] at ends
        omega
      rw [List.nil_append, untilEnded, if_pos waits]
      rfl
  | cons element rest inductionHypothesis =>
      have waits : gathered.ended < tasks := by omega
      have later : (gathered.add element).ended + rest.countP Element.isFinished + 1 = tasks := by
        rw [List.countP_cons] at ends
        cases element with
        | record value time => exact ends
        | watermark time => exact ends
        | finished =>
            have one : (if (Element.finished : Element (Id × SumCount)).isFinished = true then 1
                else 0) = 1 := rfl
            rw [one] at ends
            change gathered.ended + 1 + _ + 1 = tasks
            omega
      rw [List.cons_append, untilEnded, if_pos waits, inductionHypothesis later]
      rfl

end Gathered
end Sensor
end PreAggregation
