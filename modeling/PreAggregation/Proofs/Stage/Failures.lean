import PreAggregation.Proofs.Stage.Bench

/-!
# What a failure leaves behind

A call of a stage fails only because the function that combines the records does.  A record
that cannot be folded takes the partial of its key with it, and nothing else.  A flush that
fails takes its own outputs off the buffer again and keeps the bundle.  Everything before is
as if the calls before had been the only ones, and nothing behind is done.
-/

namespace PreAggregation

/-- A trigger that fires starts over. -/
theorem Trigger.fst_onElement_of_fires
    {trigger : Trigger}
    (fires : trigger.onElement.2 = true) :
    trigger.onElement.1 = trigger.reset := by
  unfold onElement at fires ⊢
  split at fires
  · rename_i reached
    rw [if_pos reached]
  · cases fires

namespace Bench

variable {φ κ ν ι ο : Type}

/-- A failed flush keeps the stage and the buffer.  What the function remembers is its own. -/
inductive Withdraws
    (combiner : Combiner φ κ ν ι ο)
    (bench : Bench φ κ ν ο) : Attempt (Bench φ κ ν ο) → Prop
  | intro
      {memory : φ}
      {pushed : List ο}
      {cause : Error}
      (failed : combiner.collect bench.memory bench.stage.bundle bench.output =
        (memory, pushed, .error cause)) :
      Withdraws combiner bench
        { state := { bench with memory }
          result := .error (cause.within (.stage (.combine .collect))) }

section Flushes

variable {combiner : Combiner φ κ ν ι ο} {asked now : Instant}
variable {bench : Bench φ κ ν ο} {error : Error}

theorem Withdraws.fault?_eq
    {attempt : Attempt (Bench φ κ ν ο)}
    (withdraws : Withdraws combiner bench attempt)
    (failed : attempt.result = .error error) :
    error.fault? = some (.combine .collect) := by
  cases withdraws
  cases failed
  exact Error.fault?_within_stage _ _

theorem withdraws_flush
    (failed : (flush combiner now bench).result = .error error) :
    Withdraws combiner bench (flush combiner now bench) := by
  rcases flush_cases combiner now bench with
    ⟨-, flushed⟩ | ⟨-, memory, output, -, flushed⟩ | ⟨-, memory, pushed, cause, collected, flushed⟩
  · rw [flushed] at failed
    cases failed
  · rw [flushed] at failed
    cases failed
  · rw [flushed]
    exact .intro collected

theorem withdraws_timeTrigger
    (failed : (timeTrigger combiner now bench).result = .error error) :
    Withdraws combiner
      { bench with stage := { bench.stage with trigger := bench.stage.trigger.reset } }
      (timeTrigger combiner now bench) :=
  withdraws_flush failed

theorem withdraws_onProcessingTime
    (failed : (onProcessingTime combiner asked now bench).result = .error error) :
    Withdraws combiner
      { bench with stage := { bench.stage with trigger := bench.stage.trigger.reset } }
      (onProcessingTime combiner asked now bench) := by
  rw [onProcessingTime_eq] at failed ⊢
  split at failed
  · rename_i due
    rw [if_pos due]
    exact withdraws_timeTrigger failed
  · cases failed

theorem withdraws_onEnd
    (failed : (onEnd combiner now bench).result = .error error) :
    Withdraws combiner bench (onEnd combiner now bench) := by
  unfold onEnd at failed ⊢
  split at failed
  · cases failed
  · rename_i occupied
    rw [if_neg occupied]
    exact withdraws_flush failed

end Flushes

variable [DecidableEq κ]

/-- What a record leaves behind that fails in one of the two halves of the function. -/
inductive Leaves
    (combiner : Combiner φ κ ν ι ο)
    (bench : Bench φ κ ν ο)
    (record : ι) : CombinePhase → Attempt (Bench φ κ ν ο) → Prop
  /-- The record cannot be folded, and its key has no partial any more. -/
  | addInput
      {memory : φ}
      {cause : Error}
      {bundle : Bundle κ ν}
      (refused :
        combiner.addInput bench.memory (bench.stage.bundle.get? (combiner.key record)) record =
          (memory, .error cause))
      (entries : ∀ key, bundle.get? key =
        if combiner.key record = key then none else bench.stage.bundle.get? key) :
      Leaves combiner bench record .addInput
        { state := { bench with memory, stage := { bench.stage with bundle } }
          result := .error (cause.within (.stage (.combine .addInput))) }
  /-- The record is folded and the trigger starts over, but the flush fails. -/
  | collect
      {memory : φ}
      {merged : ν}
      {bundle : Bundle κ ν}
      {attempt : Attempt (Bench φ κ ν ο)}
      (folded :
        combiner.addInput bench.memory (bench.stage.bundle.get? (combiner.key record)) record =
          (memory, .ok merged))
      (entries : ∀ key, bundle.get? key =
        if combiner.key record = key then some merged else bench.stage.bundle.get? key)
      (withdraws : Withdraws combiner
        { bench with
          memory
          stage := { bench.stage with bundle, trigger := bench.stage.trigger.reset } } attempt) :
      Leaves combiner bench record .collect attempt

theorem Leaves.fault?_eq
    {combiner : Combiner φ κ ν ι ο}
    {bench : Bench φ κ ν ο}
    {record : ι}
    {phase : CombinePhase}
    {attempt : Attempt (Bench φ κ ν ο)}
    {error : Error}
    (leaves : Leaves combiner bench record phase attempt)
    (failed : attempt.result = .error error) :
    error.fault? = some (.combine phase) := by
  cases leaves with
  | addInput refused entries =>
      cases failed
      exact Error.fault?_within_stage _ _
  | collect folded entries withdraws => exact withdraws.fault?_eq failed

theorem exists_leaves
    {combiner : Combiner φ κ ν ι ο}
    {now : Instant}
    {bench : Bench φ κ ν ο}
    {record : ι}
    {error : Error}
    (failed : (processElement combiner now record bench).result = .error error) :
    ∃ phase, Leaves combiner bench record phase (processElement combiner now record bench) := by
  rcases processElement_cases combiner now bench record with
    ⟨memory, cause, refused, attempted⟩ | ⟨memory, merged, folded, attempted⟩
  · rw [attempted]
    exact ⟨.addInput, .addInput refused fun key => Bundle.lookup_remove _ key _⟩
  · rw [attempted] at failed ⊢
    split at failed
    · rename_i fires
      rw [if_pos fires]
      rw [Stage.withMerged, Trigger.fst_onElement_of_fires fires] at failed ⊢
      exact ⟨.collect,
        .collect folded (fun key => Bundle.lookup_assign _ key _ _) (withdraws_flush failed)⟩
    · cases failed

/-- A batch that fails does so at one of its records.  The records before are handled as if
there were no others, and those behind have no effect.  A record that cannot be folded leaves
everything as it was but the partial of its key, which is gone.  A record whose flush fails is
in the bundle with all others since the last flush, and none of the outputs of that flush is in
the buffer.  A flush that fails on its own, or when there are no more records, changes nothing,
and one that fails because its time has come starts the count over.  Whatever error the
function gives, the combination is to blame.

The function is taken to push its outputs behind what is in the buffer, which is the contract
`Combiner.collect_pushes`.  If it changed what is there, no cut could bring that back. -/
theorem failures_are_contained
    (combiner : Combiner φ κ ν ι ο)
    (bench : Bench φ κ ν ο)
    (error : Error) :
    (∀ records, (processBatch combiner records bench).result = .error error →
      ∃ before now record after reached phase,
        records = before ++ (now, record) :: after ∧
        processBatch combiner before bench = { state := reached } ∧
        (∀ others, processBatch combiner (before ++ (now, record) :: others) bench =
          processBatch combiner records bench) ∧
        Leaves combiner reached record phase (processBatch combiner records bench) ∧
        error.fault? = some (.combine phase)) ∧
    (∀ now, (flush combiner now bench).result = .error error →
      Withdraws combiner bench (flush combiner now bench) ∧
        error.fault? = some (.combine .collect)) ∧
    (∀ now, (onEnd combiner now bench).result = .error error →
      Withdraws combiner bench (onEnd combiner now bench) ∧
        error.fault? = some (.combine .collect)) ∧
    let restarted : Bench φ κ ν ο :=
      { bench with
        stage := { bench.stage with trigger := { bench.stage.trigger with count := 0 } } }
    (∀ now, (timeTrigger combiner now bench).result = .error error →
      Withdraws combiner restarted (timeTrigger combiner now bench) ∧
        error.fault? = some (.combine .collect)) ∧
    ∀ asked now, (onProcessingTime combiner asked now bench).result = .error error →
      Withdraws combiner restarted (onProcessingTime combiner asked now bench) ∧
        error.fault? = some (.combine .collect) := by
  refine ⟨?_, ?_, ?_, ?_, ?_⟩
  · intro records failed
    obtain ⟨before, now, record, after, reached, split, handled, fails, stops⟩ :=
      exists_processElement_of_error failed
    obtain ⟨phase, leaves⟩ := exists_leaves fails
    have batch_eq : processBatch combiner records bench =
        processElement combiner now record reached := split ▸ stops after
    refine ⟨before, now, record, after, reached, phase, split, handled, ?_, ?_, ?_⟩
    · exact fun others => (stops others).trans batch_eq.symm
    · rw [batch_eq]
      exact leaves
    · exact leaves.fault?_eq fails
  · exact fun now failed => ⟨withdraws_flush failed, (withdraws_flush failed).fault?_eq failed⟩
  · exact fun now failed => ⟨withdraws_onEnd failed, (withdraws_onEnd failed).fault?_eq failed⟩
  · exact fun now failed =>
      ⟨withdraws_timeTrigger failed, (withdraws_timeTrigger failed).fault?_eq failed⟩
  · exact fun asked now failed =>
      ⟨withdraws_onProcessingTime failed, (withdraws_onProcessingTime failed).fault?_eq failed⟩

/-- A function that counts its calls, adds up the values of each key, takes no zeros, and pushes
the sums up to the first that is ten or more. -/
def smallSums (cause : Error) : Combiner Nat Nat Nat (Nat × Nat) Nat where
  key := Prod.fst
  addInput calls current record :=
    (calls + 1, if record.2 = 0 then .error cause else .ok (current.getD 0 + record.2))
  collect calls bundle output :=
    let sums := bundle.entries.map Prod.snd
    (calls + 1, output ++ sums.takeWhile (· < 10),
      if sums.all (· < 10) then .ok () else .error cause)
  collect_pushes _ _ output := List.prefix_append output _

/-- The fourth record is folded, but the flush behind it fails after its first output.  What
was in the buffer stays, and so do the outputs of the flush before.  In another batch the second
record takes the sum of its key with it.  A bundle whose sum is too large cannot be flushed in
any way.  The error of the function is itself one of the stage. -/
theorem failures_are_contained_late :
    let cause : Error := ⟨.stage (.controlChannel "t"), []⟩
    let combiner := smallSums cause
    let trigger : Trigger := ⟨0, 2, some 1000000, .global⟩
    let bench : Bench Nat Nat Nat Nat := ⟨0, .unopened .standard trigger .absent 0, [7]⟩
    let late : List (Instant × Nat × Nat) :=
      [(1, 1, 4), (2, 2, 5), (3, 1, 3), (4, 2, 12), (5, 3, 1)]
    let refused : List (Instant × Nat × Nat) := [(1, 1, 4), (2, 1, 0), (3, 2, 5)]
    let kept := (processBatch combiner late bench).state
    let held := (processBatch combiner [(1, 2, 12)] bench).state
    let restarted : Bench Nat Nat Nat Nat :=
      { held with stage := { held.stage with trigger := { held.stage.trigger with count := 0 } } }
    (∃ before now record after reached phase,
      late = before ++ (now, record) :: after ∧
        processBatch combiner before bench = { state := reached } ∧
        Leaves combiner reached record phase (processBatch combiner late bench)) ∧
      kept.output = [7, 4, 5] ∧ kept.stage.bundle.entries = [(1, 3), (2, 12)] ∧
      kept.stage.trigger.count = 0 ∧ kept.stage.flushCount = 1 ∧
      (∃ before now record after reached phase,
        refused = before ++ (now, record) :: after ∧
          processBatch combiner before bench = { state := reached } ∧
          Leaves combiner reached record phase (processBatch combiner refused bench)) ∧
      held.stage.trigger.count = 1 ∧
      Withdraws combiner held (flush combiner 9 held) ∧
      Withdraws combiner held (onEnd combiner 9 held) ∧
      Withdraws combiner restarted (timeTrigger combiner 9 held) ∧
      Withdraws combiner restarted (onProcessingTime combiner 2000000 2000001 held) := by
  intro cause combiner trigger bench late refused kept held restarted
  let collecting : Error := cause.within (.stage (.combine .collect))
  let adding : Error := cause.within (.stage (.combine .addInput))
  have lateFails : (processBatch combiner late bench).result = .error collecting := by
    decide +kernel
  have refusedFails : (processBatch combiner refused bench).result = .error adding := by
    decide +kernel
  have flushFails : (flush combiner 9 held).result = .error collecting := by decide +kernel
  have endFails : (onEnd combiner 9 held).result = .error collecting := by decide +kernel
  have timeFails : (timeTrigger combiner 9 held).result = .error collecting := by decide +kernel
  have tickFails :
      (onProcessingTime combiner 2000000 2000001 held).result = .error collecting := by
    decide +kernel
  obtain ⟨ofLate, -⟩ := failures_are_contained combiner bench collecting
  obtain ⟨ofRefused, -⟩ := failures_are_contained combiner bench adding
  obtain ⟨-, ofFlush, ofEnd, ofTime, ofTick⟩ := failures_are_contained combiner held collecting
  refine ⟨?_, by decide +kernel, by decide +kernel, by decide +kernel, by decide +kernel, ?_,
    by decide +kernel, (ofFlush 9 flushFails).1, (ofEnd 9 endFails).1, (ofTime 9 timeFails).1,
    (ofTick 2000000 2000001 tickFails).1⟩
  · obtain ⟨before, now, record, after, reached, phase, split, handled, -, leaves, -⟩ :=
      ofLate late lateFails
    exact ⟨before, now, record, after, reached, phase, split, handled, leaves⟩
  · obtain ⟨before, now, record, after, reached, phase, split, handled, -, leaves, -⟩ :=
      ofRefused refused refusedFails
    exact ⟨before, now, record, after, reached, phase, split, handled, leaves⟩

end Bench
end PreAggregation
