import Mathlib.Algebra.BigOperators.Fin
import Mathlib.Algebra.Order.BigOperators.Group.Finset
import PreAggregation.Proofs.Operator.Steps
import PreAggregation.Proofs.Stage.Calls
import PreAggregation.SumCount

/-!
# Totals by key

Where partials are measured by a commutative monoid, and folding a record adds its
weight, a stage neither loses nor invents anything: under every key, what was emitted
and what is still in the bundles amount to the records that arrived.  The totals
depend neither on when bundles are flushed nor on how the records are distributed over
calls and stages.
-/

namespace PreAggregation
namespace Aggregation

variable {κ ν ι ο μ : Type} [DecidableEq κ] [AddCommMonoid μ]

/-- What an entry counts for under a key. -/
def share
    (measure : ν → μ)
    (key : κ)
    (entry : κ × ν) : μ :=
  if entry.1 = key then measure entry.2 else 0

/-- What some entries amount to under a key. -/
def total
    (measure : ν → μ)
    (key : κ)
    (entries : List (κ × ν)) : μ :=
  (entries.map (share measure key)).sum

/-- The records by key with their weights. -/
def weighed
    (aggregation : Aggregation κ ν ι ο)
    (weight : ι → μ)
    (records : List ι) : List (κ × μ) :=
  records.map fun record => (aggregation.key record, weight record)

/-- Folding a record adds its weight to the measure of a partial, and collecting a
bundle emits each of its entries once. -/
structure Additive
    (aggregation : Aggregation κ ν ι (κ × ν))
    (measure : ν → μ)
    (weight : ι → μ) : Prop where
  /-- The first partial of a key has the weight of its record. -/
  measure_first : ∀ {record merged},
    aggregation.addInput none record = .ok merged → measure merged = weight record
  /-- A later record adds its weight. -/
  measure_later : ∀ {current record merged},
    aggregation.addInput (some current) record = .ok merged →
      measure merged = measure current + weight record
  /-- The outputs are the entries in some order. -/
  outputs_perm : ∀ {bundle}, (aggregation.collect bundle).result = .ok () →
    (aggregation.collect bundle).outputs.Perm bundle.entries

omit [DecidableEq κ] in
theorem Additive.measure_merged
    {aggregation : Aggregation κ ν ι (κ × ν)}
    {measure : ν → μ}
    {weight : ι → μ}
    (additive : aggregation.Additive measure weight)
    {current : Option ν}
    {record : ι}
    {merged : ν}
    (folded : aggregation.addInput current record = .ok merged) :
    measure merged = current.elim 0 measure + weight record := by
  cases current with
  | none => rw [Option.elim_none, zero_add, additive.measure_first folded]
  | some current => rw [Option.elim_some, additive.measure_later folded]

omit [DecidableEq κ] in
theorem additive_count
    (key : ι → κ) :
    (Aggregation.count key).Additive id fun _ => 1 where
  measure_first folded := by
    cases folded
    rfl
  measure_later folded := by
    cases folded
    rfl
  outputs_perm _ := List.Perm.refl _

omit [DecidableEq κ] in
theorem additive_sumCount :
    (Aggregation.sumCount κ).Additive SumCount.count fun _ => 1 where
  measure_first folded := by
    cases folded
    rfl
  measure_later folded := by
    cases folded
    rfl
  outputs_perm _ := List.Perm.refl _

/-- Folding and collecting always succeed. -/
structure Infallible (aggregation : Aggregation κ ν ι ο) : Prop where
  /-- Every record can be folded. -/
  addInput_ok : ∀ current record, ∃ merged, aggregation.addInput current record = .ok merged
  /-- Every bundle can be collected. -/
  collect_ok : ∀ bundle, (aggregation.collect bundle).result = .ok ()

omit [DecidableEq κ] in
theorem infallible_ofFold
    (key : ι → κ)
    (fold : Option ν → ι → ν) :
    (Aggregation.ofFold key fold).Infallible where
  addInput_ok current record := ⟨fold current record, rfl⟩
  collect_ok _ := rfl

/-! ## Totals of lists -/

theorem total_cons
    (measure : ν → μ)
    (key : κ)
    (entry : κ × ν)
    (rest : List (κ × ν)) :
    total measure key (entry :: rest) = share measure key entry + total measure key rest := by
  rw [total, List.map_cons, List.sum_cons, total]

theorem total_perm
    (measure : ν → μ)
    (key : κ)
    {first second : List (κ × ν)}
    (permuted : first.Perm second) :
    total measure key first = total measure key second :=
  (permuted.map (share measure key)).sum_eq

/-- Replacing the partial of a key by one that is larger by some amount adds this
amount under that key and nothing elsewhere. -/
theorem total_assign
    (measure : ν → μ)
    {key : κ}
    {merged : ν}
    {arrived : μ}
    {entries : List (κ × ν)}
    (measured : measure merged = (Bundle.lookup key entries).elim 0 measure + arrived)
    (other : κ) :
    total measure other (Bundle.assign key merged entries) =
      total measure other entries + if key = other then arrived else 0 := by
  induction entries with
  | nil =>
      rw [Bundle.lookup, Option.elim_none, zero_add] at measured
      rw [Bundle.assign, total_cons, share, measured]
      exact add_comm _ _
  | cons entry rest inductionHypothesis =>
      obtain ⟨head, old⟩ := entry
      by_cases same : head = key
      · subst same
        rw [Bundle.lookup, if_pos rfl, Option.elim_some] at measured
        rw [Bundle.assign, if_pos rfl, total_cons, total_cons, share, share, measured]
        by_cases equal : head = other
        · simp only [if_pos equal]
          exact add_right_comm _ _ _
        · simp only [if_neg equal, add_zero]
      · rw [Bundle.lookup, if_neg same] at measured
        rw [Bundle.assign, if_neg same, total_cons, total_cons,
          inductionHypothesis measured, add_assoc]

end Aggregation

namespace Stage

variable {κ ν ι ο μ : Type} [DecidableEq κ] [AddCommMonoid μ]

open Aggregation

/-- What the bundle of a stage amounts to under a key. -/
def held
    (measure : ν → μ)
    (key : κ)
    (stage : Stage κ ν) : μ :=
  total measure key stage.bundle.entries

/-! ## One call -/

section OneCall

variable {aggregation : Aggregation κ ν ι (κ × ν)} {measure : ν → μ} {weight : ι → μ}

/-- A flush moves the bundle into the output. -/
theorem balanced_flush
    (additive : aggregation.Additive measure weight)
    (now : Instant)
    (key : κ)
    (stage : Stage κ ν) :
    Step.Balanced (share measure key) (held measure key) stage 0
      (flush aggregation now stage) := by
  intro succeeds
  rw [add_zero]
  rcases flush_cases aggregation now stage with
    ⟨nothing, flushed⟩ | ⟨_, collected, flushed⟩ | ⟨_, error, _, flushed⟩
  · rw [flushed, held, held, nothing]
    exact add_zero _
  · rw [flushed]
    have moved : total measure key (aggregation.collect stage.bundle).outputs =
        held measure key stage :=
      total_perm measure key (additive.outputs_perm collected)
    rw [← moved]
    exact add_zero _
  · rw [flushed] at succeeds
    exact absurd succeeds (by simp)

/-- A record goes into the bundle, and perhaps with the bundle into the output. -/
theorem balanced_processElement
    (additive : aggregation.Additive measure weight)
    (now : Instant)
    (key : κ)
    (record : ι)
    (stage : Stage κ ν) :
    Step.Balanced (share measure key) (held measure key) stage
      (share id key (aggregation.key record, weight record))
      (processElement aggregation now record stage) := by
  rcases processElement_cases aggregation now record stage with
    ⟨error, _, failed⟩ | ⟨merged, folded, processed⟩
  · intro succeeds
    rw [failed] at succeeds
    exact absurd succeeds (by simp)
  · have taken : held measure key (stage.withMerged (aggregation.key record) merged) =
        held measure key stage + share id key (aggregation.key record, weight record) :=
      total_assign measure (additive.measure_merged folded) key
    intro succeeds
    rw [processed] at succeeds ⊢
    split at succeeds
    · rename_i fires
      rw [if_pos fires]
      have flushed := balanced_flush additive now key
        (stage.withMerged (aggregation.key record) merged) succeeds
      rw [flushed, taken, add_zero]
    · rename_i waits
      rw [if_neg waits]
      simpa using taken

/-- Every call is balanced by the records that arrive with it. -/
theorem balanced_perform
    (additive : aggregation.Additive measure weight)
    (now : Instant)
    (key : κ)
    (call : Call ι)
    (stage : Stage κ ν) :
    Step.Balanced (share measure key) (held measure key) stage
      (total id key (aggregation.weighed weight call.records))
      (perform aggregation now stage call) := by
  have idle (quiet : Stage κ ν) (same : quiet.bundle = stage.bundle) :
      Step.Balanced (ο := κ × ν) (share measure key) (held measure key) stage (0 : μ)
        { state := quiet } := by
    intro _
    simp [held, same]
  cases call with
  | batch records =>
      have weights : total id key (aggregation.weighed weight records) =
          (records.map fun record =>
            share id key (aggregation.key record, weight record)).sum := by
        rw [total, weighed, List.map_map]
        rfl
      rw [Call.records, weights]
      exact Step.Balanced.each (balanced_processElement additive now key) records stage
  | flush => exact balanced_flush additive now key stage
  | timeTrigger => exact balanced_flush additive now key _
  | tick =>
      rw [perform, onProcessingTime_eq]
      split
      · exact balanced_flush additive now key _
      · exact idle stage rfl
  | finish =>
      rcases onEnd_cases aggregation now stage with ⟨_, ended⟩ | ⟨_, ended⟩
      · rw [perform, ended]
        exact idle stage rfl
      · rw [perform, ended]
        exact balanced_flush additive now key stage
  | change change => exact idle _ (change.bundle_apply stage)

end OneCall

/-! ## Many stages -/

/-- A call to one of several stages. -/
structure Addressed (count : Nat) (ι : Type) where
  /-- The stage. -/
  stage : Fin count
  /-- The reading of the clock. -/
  now : Instant
  /-- The call. -/
  call : Call ι

/-- The records that arrive with some calls. -/
def arrivals {count : Nat} (calls : List (Addressed count ι)) : List ι :=
  calls.flatMap fun addressed => addressed.call.records

/-- What a call makes of the stages. -/
def performAt
    {count : Nat}
    (aggregation : Aggregation κ ν ι ο)
    (addressed : Addressed count ι)
    (stages : Fin count → Stage κ ν) : Step (Fin count → Stage κ ν) ο :=
  (perform aggregation addressed.now (stages addressed.stage) addressed.call).mapState
    (Function.update stages addressed.stage)

@[simp] theorem state_performAt
    {count : Nat}
    (aggregation : Aggregation κ ν ι ο)
    (addressed : Addressed count ι)
    (stages : Fin count → Stage κ ν) :
    (performAt aggregation addressed stages).state =
      Function.update stages addressed.stage
        (perform aggregation addressed.now (stages addressed.stage) addressed.call).state := rfl

@[simp] theorem emitted_performAt
    {count : Nat}
    (aggregation : Aggregation κ ν ι ο)
    (addressed : Addressed count ι)
    (stages : Fin count → Stage κ ν) :
    (performAt aggregation addressed stages).emitted =
      (perform aggregation addressed.now (stages addressed.stage) addressed.call).emitted := rfl

/-- What some calls make of the stages, up to the first that fails. -/
def performAll
    {count : Nat}
    (aggregation : Aggregation κ ν ι ο)
    (calls : List (Addressed count ι))
    (stages : Fin count → Stage κ ν) : Step (Fin count → Stage κ ν) ο :=
  Step.each (performAt aggregation) calls stages

/-- What the bundles of all stages amount to under a key. -/
def heldByAll
    {count : Nat}
    (measure : ν → μ)
    (key : κ)
    (stages : Fin count → Stage κ ν) : μ :=
  ∑ index, held measure key (stages index)

/-- A call to one stage leaves what the others hold. -/
theorem balanced_performAt
    {count : Nat}
    {aggregation : Aggregation κ ν ι (κ × ν)}
    {measure : ν → μ}
    {weight : ι → μ}
    (additive : aggregation.Additive measure weight)
    (key : κ)
    (addressed : Addressed count ι)
    (stages : Fin count → Stage κ ν) :
    Step.Balanced (share measure key) (heldByAll measure key) stages
      (total id key (aggregation.weighed weight addressed.call.records))
      (performAt aggregation addressed stages) := by
  intro succeeds
  have balanced := balanced_perform additive addressed.now key addressed.call
    (stages addressed.stage) succeeds
  have changed (next : Stage κ ν) :
      heldByAll measure key (Function.update stages addressed.stage next) =
        held measure key next +
          ∑ index ∈ Finset.univ.erase addressed.stage, held measure key (stages index) := by
    rw [heldByAll, ← Finset.add_sum_erase _ _ (Finset.mem_univ addressed.stage),
      Function.update_self]
    congr 1
    apply Finset.sum_congr rfl
    intro index present
    rw [Function.update_of_ne (Finset.ne_of_mem_erase present)]
  have before : heldByAll measure key stages =
      held measure key (stages addressed.stage) +
        ∑ index ∈ Finset.univ.erase addressed.stage, held measure key (stages index) :=
    (Finset.add_sum_erase _ _ (Finset.mem_univ addressed.stage)).symm
  rw [state_performAt, emitted_performAt, changed, before, ← add_assoc, balanced,
    add_right_comm]

theorem balanced_performAll
    {count : Nat}
    {aggregation : Aggregation κ ν ι (κ × ν)}
    {measure : ν → μ}
    {weight : ι → μ}
    (additive : aggregation.Additive measure weight)
    (key : κ)
    (calls : List (Addressed count ι))
    (stages : Fin count → Stage κ ν) :
    Step.Balanced (share measure key) (heldByAll measure key) stages
      (total id key (aggregation.weighed weight (arrivals calls)))
      (performAll aggregation calls stages) := by
  have weights : total id key (aggregation.weighed weight (arrivals calls)) =
      (calls.map fun addressed =>
        total id key (aggregation.weighed weight addressed.call.records)).sum := by
    induction calls with
    | nil => rfl
    | cons addressed rest inductionHypothesis =>
        rw [List.map_cons, List.sum_cons, ← inductionHypothesis]
        simp only [arrivals, List.flatMap_cons, total, weighed, List.map_append,
          List.sum_append]
  rw [weights]
  exact Step.Balanced.each (balanced_performAt additive key) calls stages

/-! ## The end of the records -/

/-- The end of the records, told to some stages one after another. -/
def finishes
    {count : Nat}
    (order : List (Fin count))
    (now : Fin count → Instant) : List (Addressed count ι) :=
  order.map fun index => ⟨index, now index, .finish⟩

omit [DecidableEq κ] in
theorem entries_onEnd_of_ok
    {aggregation : Aggregation κ ν ι ο}
    {now : Instant}
    {stage : Stage κ ν}
    (succeeds : (onEnd aggregation now stage).result = .ok ()) :
    (onEnd aggregation now stage).state.bundle.entries = [] := by
  rcases onEnd_cases aggregation now stage with ⟨nothing, ended⟩ | ⟨_, ended⟩
  · rw [ended]
    exact nothing
  · rw [ended] at succeeds ⊢
    exact entries_flush_of_ok succeeds

/-- Behind its last call a stage that was told the end holds nothing. -/
theorem entries_performAll_finishes
    {count : Nat}
    {aggregation : Aggregation κ ν ι ο}
    (now : Fin count → Instant)
    {order : List (Fin count)}
    {stages : Fin count → Stage κ ν}
    (succeeds : (performAll aggregation (finishes order now) stages).result = .ok ())
    {index : Fin count}
    (told : index ∈ order ∨ (stages index).bundle.entries = []) :
    ((performAll aggregation (finishes order now) stages).state index).bundle.entries = [] := by
  induction order generalizing stages with
  | nil =>
      rcases told with member | nothing
      · exact absurd member List.not_mem_nil
      · exact nothing
  | cons head rest inductionHypothesis =>
      rw [performAll, finishes, List.map_cons, Step.each_cons] at succeeds ⊢
      obtain ⟨first, others⟩ := (Step.result_andThen_eq_ok_iff _ _).mp succeeds
      rw [Step.andThen_of_ok first]
      apply inductionHypothesis others
      by_cases same : index = head
      · subst same
        refine .inr ?_
        rw [state_performAt, Function.update_self]
        exact entries_onEnd_of_ok first
      · rw [state_performAt, Function.update_of_ne same]
        rcases told with member | nothing
        · exact .inl ((List.mem_cons.mp member).resolve_left same)
        · exact .inr nothing

/-! ## Runs -/

/-- A stage that was opened and has not been called yet. -/
def IsOpened (stage : Stage κ ν) : Prop :=
  ∃ (earlier : Stage κ ν) (opened : Instant) (subtask : Subtask) (broker : MemoryBroker),
    stage = (earlier.start opened subtask broker).1

omit [DecidableEq κ] in
theorem IsOpened.entries_eq_nil
    {stage : Stage κ ν}
    (opened : stage.IsOpened) :
    stage.bundle.entries = [] := by
  obtain ⟨earlier, now, subtask, broker, rfl⟩ := opened
  rw [bundle_start]
  rfl

/-- What was emitted and what is still in the bundles amount to together, under a key. -/
def accounted
    {count : Nat}
    (measure : ν → μ)
    (key : κ)
    (run : Step (Fin count → Stage κ ν) (κ × ν)) : μ :=
  total measure key run.emitted + heldByAll measure key run.state

/-- Under every key nothing is lost or invented between the records and the outputs. -/
structure Transparent
    (aggregation : Aggregation κ ν ι (κ × ν))
    (measure : ν → μ)
    (weight : ι → μ) : Prop where
  /-- The outputs and the bundles together amount to the records. -/
  conserves : ∀ {count : Nat} (stages : Fin count → Stage κ ν)
    (calls : List (Addressed count ι)) (key : κ),
    (∀ index, (stages index).IsOpened) →
    (performAll aggregation calls stages).result = .ok () →
    accounted measure key (performAll aggregation calls stages) =
      total id key (aggregation.weighed weight (arrivals calls))
  /-- Two runs over the same records come to the same, whatever else is called and
  wherever the records go. -/
  agrees : ∀ {count other : Nat} (stages : Fin count → Stage κ ν)
    (others : Fin other → Stage κ ν) (calls : List (Addressed count ι))
    (otherCalls : List (Addressed other ι)) (key : κ),
    (∀ index, (stages index).IsOpened) → (∀ index, (others index).IsOpened) →
    (performAll aggregation calls stages).result = .ok () →
    (performAll aggregation otherCalls others).result = .ok () →
    (arrivals calls).Perm (arrivals otherCalls) →
    accounted measure key (performAll aggregation calls stages) =
      accounted measure key (performAll aggregation otherCalls others)
  /-- Once every stage was told the end, the outputs alone amount to the records. -/
  releases : ∀ {count : Nat} (stages : Fin count → Stage κ ν)
    (calls : List (Addressed count ι)) (order : List (Fin count))
    (now : Fin count → Instant) (key : κ),
    (∀ index, (stages index).IsOpened) → (∀ index, index ∈ order) →
    (performAll aggregation (calls ++ finishes order now) stages).result = .ok () →
    total measure key (performAll aggregation (calls ++ finishes order now) stages).emitted =
      total id key (aggregation.weighed weight (arrivals calls))

theorem heldByAll_of_isOpened
    {count : Nat}
    (measure : ν → μ)
    (key : κ)
    {stages : Fin count → Stage κ ν}
    (opened : ∀ index, (stages index).IsOpened) :
    heldByAll measure key stages = 0 := by
  apply Finset.sum_eq_zero
  intro index _
  rw [held, (opened index).entries_eq_nil]
  rfl

theorem accounted_performAll
    {count : Nat}
    {aggregation : Aggregation κ ν ι (κ × ν)}
    {measure : ν → μ}
    {weight : ι → μ}
    (additive : aggregation.Additive measure weight)
    (key : κ)
    {stages : Fin count → Stage κ ν}
    {calls : List (Addressed count ι)}
    (opened : ∀ index, (stages index).IsOpened)
    (succeeds : (performAll aggregation calls stages).result = .ok ()) :
    accounted measure key (performAll aggregation calls stages) =
      total id key (aggregation.weighed weight (arrivals calls)) := by
  have balanced := balanced_performAll additive key calls stages succeeds
  rw [heldByAll_of_isOpened measure key opened, zero_add] at balanced
  exact balanced

theorem total_performAll_finishes
    {count : Nat}
    {aggregation : Aggregation κ ν ι (κ × ν)}
    {measure : ν → μ}
    {weight : ι → μ}
    (additive : aggregation.Additive measure weight)
    (key : κ)
    {stages : Fin count → Stage κ ν}
    {calls : List (Addressed count ι)}
    {order : List (Fin count)}
    (now : Fin count → Instant)
    (opened : ∀ index, (stages index).IsOpened)
    (everyone : ∀ index, index ∈ order)
    (succeeds : (performAll aggregation (calls ++ finishes order now) stages).result = .ok ()) :
    total measure key (performAll aggregation (calls ++ finishes order now) stages).emitted =
      total id key (aggregation.weighed weight (arrivals calls)) := by
  have balanced := accounted_performAll additive key opened succeeds
  have nothingArrives : arrivals (finishes (ι := ι) order now) = [] := by
    simp [arrivals, finishes, Call.records]
  have arrived : arrivals (calls ++ finishes order now) = arrivals calls := by
    rw [arrivals, List.flatMap_append]
    exact (congrArg (arrivals calls ++ ·) nothingArrives).trans (List.append_nil _)
  have emptied : heldByAll measure key
      (performAll aggregation (calls ++ finishes order now) stages).state = 0 := by
    rw [performAll, Step.each_append] at succeeds ⊢
    obtain ⟨first, last⟩ := (Step.result_andThen_eq_ok_iff _ _).mp succeeds
    rw [Step.andThen_of_ok first]
    apply Finset.sum_eq_zero
    intro index _
    rw [held]
    exact congrArg (total measure key)
      (entries_performAll_finishes now last (.inl (everyone index)))
  rw [accounted, emptied, add_zero, arrived] at balanced
  exact balanced

/-! ## Runs that cannot fail -/

section Infallible

variable {aggregation : Aggregation κ ν ι ο}

omit [DecidableEq κ] in
theorem result_flush_of_infallible
    (infallible : aggregation.Infallible)
    (now : Instant)
    (stage : Stage κ ν) :
    (flush aggregation now stage).result = .ok () := by
  rcases flush_cases aggregation now stage with
    ⟨_, flushed⟩ | ⟨_, _, flushed⟩ | ⟨_, error, failed, _⟩
  · rw [flushed]
  · rw [flushed]
  · rw [infallible.collect_ok] at failed
    exact absurd failed (by simp)

theorem result_perform_of_infallible
    (infallible : aggregation.Infallible)
    (now : Instant)
    (stage : Stage κ ν)
    (call : Call ι) :
    (perform aggregation now stage call).result = .ok () := by
  cases call with
  | batch records =>
      apply Step.result_each
      intro record stage
      rcases processElement_cases aggregation now record stage with
        ⟨error, failed, _⟩ | ⟨merged, _, processed⟩
      · obtain ⟨merged, folded⟩ := infallible.addInput_ok
          (stage.bundle.get? (aggregation.key record)) record
        rw [folded] at failed
        exact absurd failed (by simp)
      · rw [processed]
        split
        · exact result_flush_of_infallible infallible now _
        · rfl
  | flush => exact result_flush_of_infallible infallible now stage
  | timeTrigger => exact result_flush_of_infallible infallible now _
  | tick =>
      rw [perform, onProcessingTime_eq]
      split
      · exact result_flush_of_infallible infallible now _
      · rfl
  | finish =>
      rcases onEnd_cases aggregation now stage with ⟨_, ended⟩ | ⟨_, ended⟩
      · rw [perform, ended]
      · rw [perform, ended]
        exact result_flush_of_infallible infallible now stage
  | change change => rfl

theorem result_performAll_of_infallible
    {count : Nat}
    (infallible : aggregation.Infallible)
    (calls : List (Addressed count ι))
    (stages : Fin count → Stage κ ν) :
    (performAll aggregation calls stages).result = .ok () := by
  unfold performAll
  apply Step.result_each
  intro addressed current
  exact result_perform_of_infallible infallible addressed.now _ addressed.call

end Infallible

/-! ## Counts -/

theorem total_weighed_one_le
    (aggregation : Aggregation κ ν ι ο)
    (key : κ)
    (records : List ι) :
    total id key (aggregation.weighed (fun _ => 1) records) ≤ records.length := by
  induction records with
  | nil => exact Nat.le_refl 0
  | cons record rest inductionHypothesis =>
      have own : share id key (aggregation.key record, 1) ≤ 1 := by
        unfold share
        split <;> simp
      rw [weighed] at inductionHypothesis
      rw [weighed, List.map_cons, total_cons, List.length_cons]
      omega

theorem measure_le_total
    (measure : ν → Nat)
    {entry : κ × ν}
    {entries : List (κ × ν)}
    (member : entry ∈ entries) :
    measure entry.2 ≤ total measure entry.1 entries := by
  have own : share measure entry.1 entry = measure entry.2 := if_pos rfl
  rw [← own]
  exact List.single_le_sum (fun _ _ => Nat.zero_le _) _ (List.mem_map_of_mem member)

/-- Where every record counts once, no partial counts more than all records. -/
theorem measure_le_length_arrivals
    {count : Nat}
    {aggregation : Aggregation κ ν ι (κ × ν)}
    {measure : ν → Nat}
    (additive : aggregation.Additive measure fun _ => 1)
    {stages : Fin count → Stage κ ν}
    {calls : List (Addressed count ι)}
    (opened : ∀ index, (stages index).IsOpened)
    (succeeds : (performAll aggregation calls stages).result = .ok ())
    {entry : κ × ν}
    (present : entry ∈ (performAll aggregation calls stages).emitted ∨
      ∃ index, entry ∈ ((performAll aggregation calls stages).state index).bundle.entries) :
    measure entry.2 ≤ (arrivals calls).length := by
  have conserved := accounted_performAll additive entry.1 opened succeeds
  have bounded := total_weighed_one_le aggregation entry.1 (arrivals calls)
  rw [accounted] at conserved
  rcases present with emitted | ⟨index, inBundle⟩
  · have part := measure_le_total measure emitted
    omega
  · have part := measure_le_total measure inBundle
    have whole : held measure entry.1 ((performAll aggregation calls stages).state index) ≤
        heldByAll measure entry.1 (performAll aggregation calls stages).state :=
      Finset.single_le_sum
        (f := fun index =>
          held measure entry.1 ((performAll aggregation calls stages).state index))
        (fun _ _ => Nat.zero_le _) (Finset.mem_univ index)
    rw [held] at whole
    omega

/-! ## Transparency -/

/-- Additive aggregations are transparent.  Both aggregations at hand are additive in
the number of records and never fail, and where every record counts once no partial
counts more than all records, so that fewer than `2 ^ 64` of them fit a 64-bit word. -/
theorem transparent_of_additive :
    (∀ (aggregation : Aggregation κ ν ι (κ × ν)) (measure : ν → μ) (weight : ι → μ),
      aggregation.Additive measure weight → Transparent aggregation measure weight) ∧
    (∀ keyOf : ι → κ,
      (Aggregation.count keyOf).Additive id (fun _ => 1) ∧
      ∀ {count : Nat} (calls : List (Addressed count ι)) (stages : Fin count → Stage κ Nat),
        (performAll (Aggregation.count keyOf) calls stages).result = .ok ()) ∧
    ((Aggregation.sumCount κ).Additive SumCount.count (fun _ => 1) ∧
      ∀ {count : Nat} (calls : List (Addressed count (κ × Float)))
        (stages : Fin count → Stage κ SumCount),
        (performAll (Aggregation.sumCount κ) calls stages).result = .ok ()) ∧
    (∀ (aggregation : Aggregation κ ν ι (κ × ν)) (measure : ν → Nat),
      aggregation.Additive measure (fun _ => 1) →
      ∀ {count : Nat} (stages : Fin count → Stage κ ν) (calls : List (Addressed count ι)),
        (∀ index, (stages index).IsOpened) →
        (performAll aggregation calls stages).result = .ok () →
        ∀ entry,
          (entry ∈ (performAll aggregation calls stages).emitted ∨
            ∃ index,
              entry ∈ ((performAll aggregation calls stages).state index).bundle.entries) →
          measure entry.2 ≤ (arrivals calls).length) := by
  refine ⟨?_, ?_, ?_, ?_⟩
  · intro aggregation measure weight additive
    refine ⟨?_, ?_, ?_⟩
    · intro count stages calls key opened succeeds
      exact accounted_performAll additive key opened succeeds
    · intro count other stages others calls otherCalls key opened othersOpened succeeds
        othersSucceed permuted
      rw [accounted_performAll additive key opened succeeds,
        accounted_performAll additive key othersOpened othersSucceed]
      exact total_perm id key (permuted.map _)
    · intro count stages calls order now key opened everyone succeeds
      exact total_performAll_finishes additive key now opened everyone succeeds
  · intro keyOf
    refine ⟨additive_count keyOf, ?_⟩
    intro count calls stages
    exact result_performAll_of_infallible (infallible_ofFold _ _) calls stages
  · refine ⟨additive_sumCount, ?_⟩
    intro count calls stages
    exact result_performAll_of_infallible (infallible_ofFold _ _) calls stages
  · intro aggregation measure additive count stages calls opened succeeds entry present
    exact measure_le_length_arrivals additive opened succeeds present

/-- Two stages that count words, with thresholds of two and seven records in force, and
five words of which three are the same. -/
theorem transparent_of_additive_two_stages :
    let stages : Fin 2 → Stage Nat Nat := fun index =>
      ((unopened (.ofCount 2) ⟨0, 2, none, .global⟩ .absent 0).start 0
        ⟨"words", index, 2⟩ .empty).1
    let calls : List (Addressed 2 Nat) :=
      [⟨0, 1, .batch [7, 8, 7]⟩, ⟨1, 2, .change (.adjust 5)⟩, ⟨1, 3, .batch [7, 8]⟩]
    let run := performAll (Aggregation.count id) (calls ++ finishes [0, 1] fun _ => 4) stages
    (∀ index, (stages index).IsOpened) ∧ run.result = .ok () ∧
      run.emitted = [(7, 1), (8, 1), (7, 1), (7, 1), (8, 1)] ∧
      total id 7 run.emitted = 3 := by
  intro stages calls run
  have opened : ∀ index, (stages index).IsOpened := fun index => ⟨_, _, _, _, rfl⟩
  have succeeds : run.result = .ok () := (transparent_of_additive (μ := Nat) (ν := Nat)).2.1 id |>.2 _ _
  refine ⟨opened, succeeds, by decide +kernel, ?_⟩
  exact (transparent_of_additive.1 (Aggregation.count id) id (fun _ => 1)
    (additive_count id)).releases stages calls [0, 1] (fun _ => 4) 7 opened (by decide) succeeds

end Stage
end PreAggregation
