import PreAggregation.Proofs.Sensor.Gathering

/-!
# The report of tasks that deliver

A task delivers if it sends partials that amount to the samples of its lines, and its end
behind them.  Tasks that deliver make up a report that tells of each sensor how many
samples it has in all lines, in whatever order their outputs come together.
-/

namespace PreAggregation
namespace Sensor

open Aggregation

/-- The samples of some lines. -/
def samplesOf (lines : List String) : List Sample :=
  lines.flatMap tokenize

/-- What a report says of the lines and of the elements that the tasks have sent. -/
structure Report.Counts
    (report : Report)
    (lines : List String)
    (tasks : Nat)
    (sent : List (Element (Id × SumCount))) : Prop where
  /-- The sensors stand in ascending order. -/
  ascending : (report.averages.map Prod.fst).Pairwise (· < ·)
  /-- They are the sensors that occur in the lines. -/
  mem_sensors_iff : ∀ sensor,
    sensor ∈ report.averages.map Prod.fst ↔ sensor ∈ (samplesOf lines).map Prod.fst
  /-- An average is taken over all samples of its sensor. -/
  count_eq : ∀ entry ∈ report.averages,
    entry.2.count = (samplesOf lines).countP fun sample => sample.1 = entry.1
  samples_eq : report.samples = (samplesOf lines).length
  lines_eq : report.lines = lines.length
  tasks_eq : report.tasks = tasks
  /-- All partials that were sent have arrived. -/
  partials_eq : report.partials = (sent.filterMap Element.value?).length
  /-- There are no more partials than samples. -/
  partials_le : report.partials ≤ report.samples
  /-- A partial is one of something. -/
  positive : ∀ partial_ ∈ sent.filterMap Element.value?, 1 ≤ partial_.2.count

/-! ## One task -/

/-- What a task makes of its lines. -/
structure Delivers
    {σ : Type}
    (run : Task.Run σ String (Id × SumCount))
    (lines : List String) : Prop where
  succeeds : run.result = .ok ()
  recordsIn_eq : run.stats.recordsIn = lines.length
  /-- The end is sent once, behind everything else. -/
  ends : ∃ front, run.sent = front ++ [.finished] ∧
    ∀ element ∈ front, element.isFinished = false
  /-- The partials of a sensor amount to its samples. -/
  total_eq : ∀ sensor, total SumCount.count sensor (run.sent.filterMap Element.value?) =
    total (fun _ => 1) sensor (samplesOf lines)
  positive : ∀ partial_ ∈ run.sent.filterMap Element.value?, 1 ≤ partial_.2.count

/-- A task delivers whose operator keeps the books of each sensor. -/
theorem delivers_of_settles
    {σ : Type}
    {run : Task.Run σ String (Id × SumCount)}
    {lines : List String}
    (books : Id → Books σ (Id × SumCount) Nat)
    (value_eq : ∀ sensor, (books sensor).value = Aggregation.share SumCount.count sensor)
    (proper : ∀ sensor output, (books sensor).proper output → 1 ≤ output.2.count)
    (settles : ∀ sensor, run.Settles (books sensor)
      (total (fun _ => 1) sensor (samplesOf lines)) lines.length) :
    Delivers run lines := by
  have values (front : List (Element (Id × SumCount))) :
      (front ++ [Element.finished]).filterMap Element.value? = front.filterMap Element.value? := by
    rw [List.filterMap_append]
    exact List.append_nil _
  refine ⟨(settles 0).succeeds, (settles 0).recordsIn_eq, ?_, ?_, ?_⟩
  · obtain ⟨front, sent_eq, unended, _⟩ := (settles 0).sent_eq
    exact ⟨front, sent_eq, fun element member => (unended element member).1⟩
  · intro sensor
    obtain ⟨front, sent_eq, _, worth_eq⟩ := (settles sensor).sent_eq
    rw [sent_eq, values, total, ← value_eq]
    exact worth_eq
  · intro partial_ member
    obtain ⟨front, sent_eq, allProper, _⟩ := (settles 0).sent_eq
    rw [sent_eq, values] at member
    obtain ⟨element, among, carries⟩ := List.mem_filterMap.mp member
    exact proper 0 partial_ ((allProper element among).2 partial_ carries)

/-! ## All tasks -/

section Tasks

variable {σ : Type} {runs : List (Task.Run σ String (Id × SumCount))}

theorem map_eq_of_forall₂
    {α β γ : Type}
    {related : α → β → Prop}
    {first : List α}
    {second : List β}
    (pairs : List.Forall₂ related first second)
    {f : α → γ}
    {g : β → γ}
    (equal : ∀ a b, related a b → f a = g b) :
    first.map f = second.map g := by
  induction pairs with
  | nil => rfl
  | cons head _ inductionHypothesis =>
      rw [List.map_cons, List.map_cons, equal _ _ head, inductionHypothesis]

theorem exists_of_forall₂
    {α β : Type}
    {related : α → β → Prop}
    {first : List α}
    {second : List β}
    (pairs : List.Forall₂ related first second)
    {a : α}
    (member : a ∈ first) :
    ∃ b, related a b := by
  induction pairs with
  | nil => exact absurd member List.not_mem_nil
  | cons head _ inductionHypothesis =>
      rcases List.mem_cons.mp member with rfl | later
      · exact ⟨_, head⟩
      · exact inductionHypothesis later

theorem total_flatten
    {κ ν : Type}
    [DecidableEq κ]
    (measure : ν → Nat)
    (key : κ)
    (lists : List (List (κ × ν))) :
    total measure key lists.flatten = (lists.map (total measure key)).sum := by
  rw [total, List.map_flatten, List.sum_flatten, List.map_map]
  rfl

/-- Under every sensor the partials of all tasks amount to the samples of all lines. -/
theorem total_values_of_delivers
    {lines : List String}
    (positive : 0 < runs.length)
    (deliver : List.Forall₂ Delivers runs
      ((List.range runs.length).map fun index => share runs.length index lines))
    (sensor : Id) :
    total SumCount.count sensor ((runs.map Task.Run.sent).flatten.filterMap Element.value?) =
      total (fun _ => 1) sensor (samplesOf lines) := by
  have worth (lines : List String) : total (fun _ => 1) sensor (samplesOf lines) =
      (lines.map fun line => total (fun _ => 1) sensor (tokenize line)).sum := by
    rw [samplesOf, List.flatMap, total_flatten, List.map_map]
    rfl
  calc
    total SumCount.count sensor ((runs.map Task.Run.sent).flatten.filterMap Element.value?) =
        (runs.map fun run =>
          total SumCount.count sensor (run.sent.filterMap Element.value?)).sum := by
      rw [List.filterMap_flatten, total_flatten, List.map_map, List.map_map]
      rfl
    _ = (((List.range runs.length).map fun index => share runs.length index lines).map fun lines =>
          total (fun _ => 1) sensor (samplesOf lines)).sum :=
      congrArg List.sum (map_eq_of_forall₂ deliver fun _ _ delivers => delivers.total_eq sensor)
    _ = ((List.range runs.length).map fun index =>
          ((share runs.length index lines).map fun line =>
            total (fun _ => 1) sensor (tokenize line)).sum).sum := by
      rw [List.map_map]
      exact congrArg List.sum (List.map_congr_left fun index _ => worth _)
    _ = total (fun _ => 1) sensor (samplesOf lines) := by
      rw [sum_share positive, worth]

theorem total_one
    (sensor : Id)
    (samples : List Sample) :
    total (fun _ => 1) sensor samples = samples.countP fun sample => sample.1 = sensor := by
  induction samples with
  | nil => rfl
  | cons sample rest inductionHypothesis =>
      rw [total_cons, inductionHypothesis, List.countP_cons, Nat.add_comm, Aggregation.share]
      simp only [decide_eq_true_eq]

/-- What is gathered makes up the report. -/
theorem counts_ofGathered
    {lines : List String}
    {merged : List (Element (Id × SumCount))}
    (total_eq : ∀ sensor, total SumCount.count sensor (merged.filterMap Element.value?) =
      total (fun _ => 1) sensor (samplesOf lines))
    (positive : ∀ partial_ ∈ merged.filterMap Element.value?, 1 ≤ partial_.2.count)
    {gathered : Gathered}
    (reflects : gathered.Reflects merged)
    (tasks : Nat) :
    (Report.ofGathered gathered lines.length tasks).Counts lines tasks merged := by
  have amounts (sensor : Id) : total SumCount.count sensor gathered.averages.entries =
      (samplesOf lines).countP fun sample => sample.1 = sensor := by
    rw [reflects.total_eq, total_eq, total_one]
  have sorted : (Report.ofGathered gathered lines.length tasks).averages.Perm
      gathered.averages.entries :=
    List.mergeSort_perm _ _
  have whole : gathered.samples = (samplesOf lines).length := by
    have amount := Bundle.sum_eq_of_total_eq SumCount.count (fun _ : Float => 1) fun sensor =>
      (reflects.total_eq sensor).trans (total_eq sensor)
    rw [List.map_const', List.sum_replicate, smul_eq_mul, Nat.mul_one] at amount
    exact amount
  refine ⟨?_, ?_, ?_, whole, rfl, rfl, reflects.partials_eq, ?_, positive⟩
  · have ordered : (Report.ofGathered gathered lines.length tasks).averages.Pairwise
        fun first second => decide (first.1 ≤ second.1) = true := by
      apply List.pairwise_mergeSort
      · intro first second third below beyond
        simp only [decide_eq_true_eq] at below beyond ⊢
        exact Nat.le_trans below beyond
      · intro first second
        simp only [Bool.or_eq_true, decide_eq_true_eq]
        exact Nat.le_total first.1 second.1
    have distinct : ((Report.ofGathered gathered lines.length tasks).averages.map Prod.fst).Nodup :=
      (sorted.map Prod.fst).nodup_iff.mpr reflects.distinct
    rw [List.Nodup, List.pairwise_map] at distinct
    rw [List.pairwise_map]
    apply (ordered.and distinct).imp
    intro first second both
    exact Nat.lt_of_le_of_ne (of_decide_eq_true both.1) both.2
  · intro sensor
    rw [(sorted.map Prod.fst).mem_iff]
    constructor
    · intro member
      obtain ⟨entry, among, rfl⟩ := List.mem_map.mp member
      have own := reflects.positive positive entry among
      rw [← Bundle.total_eq_of_mem SumCount.count reflects.distinct among, amounts] at own
      obtain ⟨sample, present, same⟩ := List.countP_pos_iff.mp own
      exact List.mem_map.mpr ⟨sample, present, of_decide_eq_true same⟩
    · intro member
      obtain ⟨sample, present, rfl⟩ := List.mem_map.mp member
      by_contra absent
      have nothing := Bundle.total_eq_zero_of_notMem SumCount.count absent
      rw [amounts, List.countP_eq_zero] at nothing
      exact nothing sample present (decide_eq_true rfl)
  · intro entry member
    have among := sorted.mem_iff.mp member
    rw [← Bundle.total_eq_of_mem SumCount.count reflects.distinct among]
    exact amounts entry.1
  · have amount := Bundle.sum_eq_of_total_eq SumCount.count (fun _ : Float => 1) total_eq
    rw [List.map_const', List.sum_replicate, smul_eq_mul, Nat.mul_one] at amount
    change gathered.partials ≤ gathered.samples
    rw [whole, reflects.partials_eq, ← amount, ← List.length_map (fun entry : Id × SumCount =>
      entry.2.count)]
    apply List.length_le_sum_of_one_le
    intro count member
    obtain ⟨partial_, among, rfl⟩ := List.mem_map.mp member
    exact positive partial_ among

/-- The ends of all tasks come, and the last of them comes last. -/
theorem exists_front_of_delivers
    {parts : List (List String)}
    (positive : 0 < runs.length)
    (deliver : List.Forall₂ Delivers runs parts)
    {merged : List (Element (Id × SumCount))}
    (interleaving : Interleaving (runs.map Task.Run.sent) merged) :
    ∃ front, merged = front ++ [.finished] ∧ front.countP Element.isFinished + 1 = runs.length := by
  have one (run : Task.Run σ String (Id × SumCount)) (part : List String)
      (delivers : Delivers run part) : run.sent.countP Element.isFinished = 1 := by
    obtain ⟨front, sent_eq, unended⟩ := delivers.ends
    have none_ : front.countP Element.isFinished = 0 := by
      rw [List.countP_eq_zero]
      intro element member
      simp [unended element member]
    rw [sent_eq, List.countP_append, none_]
    rfl
  have ends : merged.countP Element.isFinished = runs.length := by
    rw [interleaving.perm.countP_eq, List.countP_flatten, List.map_map]
    have ones : runs.map (List.countP Element.isFinished ∘ Task.Run.sent) = parts.map fun _ => 1 :=
      map_eq_of_forall₂ deliver one
    rw [ones, List.map_const', List.sum_replicate, smul_eq_mul, Nat.mul_one, deliver.length_eq]
  have last : ∀ element ∈ merged.getLast?, element.isFinished = true := by
    apply interleaving.last (·.isFinished = true)
    intro queue member element isLast
    obtain ⟨run, among, rfl⟩ := List.mem_map.mp member
    obtain ⟨part, delivers⟩ := exists_of_forall₂ deliver among
    obtain ⟨front, sent_eq, _⟩ := delivers.ends
    rw [sent_eq, List.getLast?_concat] at isLast
    cases isLast
    rfl
  cases found : merged.getLast? with
  | none =>
      rw [List.getLast?_eq_none_iff] at found
      rw [found, List.countP_nil] at ends
      omega
  | some element =>
      have isEnd := last element found
      obtain ⟨front, rfl⟩ := List.getLast?_eq_some_iff.mp found
      cases element with
      | record value time => exact Bool.noConfusion isEnd
      | watermark time => exact Bool.noConfusion isEnd
      | finished =>
          refine ⟨front, rfl, ?_⟩
          rw [List.countP_append] at ends
          exact ends

/-- Tasks that deliver make up a report of all lines. -/
theorem report_of_delivers
    {lines : List String}
    (positive : 0 < runs.length)
    (deliver : List.Forall₂ Delivers runs
      ((List.range runs.length).map fun index => share runs.length index lines))
    {merged : List (Element (Id × SumCount))}
    (interleaving : Interleaving (runs.map Task.Run.sent) merged) :
    ∃ report, gather runs.length merged (runs.map Task.Run.stats) = .ok report ∧
      report.Counts lines runs.length merged := by
  obtain ⟨front, merged_eq, ends⟩ := exists_front_of_delivers positive deliver interleaving
  have all : Gathered.untilEnded runs.length {} merged = merged.foldl Gathered.add {} := by
    rw [merged_eq]
    apply Gathered.untilEnded_eq_foldl
    change 0 + front.countP Element.isFinished + 1 = runs.length
    omega
  have reflects := Gathered.reflects_foldl merged
  have ended : (merged.foldl Gathered.add {}).ended = runs.length := by
    rw [reflects.ended_eq, merged_eq, List.countP_append]
    exact ends
  have counted : ((runs.map Task.Run.stats).map TaskStats.recordsIn).foldr (· + ·) 0 =
      lines.length := by
    have counts : runs.map (TaskStats.recordsIn ∘ Task.Run.stats) =
        ((List.range runs.length).map fun index => share runs.length index lines).map
          List.length :=
      map_eq_of_forall₂ deliver fun _ _ delivers => delivers.recordsIn_eq
    rw [List.map_map, counts, List.map_map]
    have whole := sum_share positive (fun _ : String => 1) lines
    simp only [List.map_const', List.sum_replicate, smul_eq_mul, Nat.mul_one] at whole
    exact whole
  refine ⟨.ofGathered (merged.foldl Gathered.add {}) lines.length runs.length, ?_, ?_⟩
  · rw [gather, all, counted, ended]
    exact if_neg (Nat.lt_irrefl _)
  · apply counts_ofGathered _ _ reflects
    · intro sensor
      rw [total_perm SumCount.count sensor (interleaving.perm.filterMap Element.value?)]
      exact total_values_of_delivers positive deliver sensor
    · intro partial_ member
      obtain ⟨element, among, carries⟩ := List.mem_filterMap.mp member
      obtain ⟨sent, present, inside⟩ := List.mem_flatten.mp (interleaving.perm.mem_iff.mp among)
      obtain ⟨run, inRuns, rfl⟩ := List.mem_map.mp present
      obtain ⟨part, delivers⟩ := exists_of_forall₂ deliver inRuns
      exact delivers.positive partial_ (List.mem_filterMap.mpr ⟨element, inside, carries⟩)

end Tasks
end Sensor
end PreAggregation
