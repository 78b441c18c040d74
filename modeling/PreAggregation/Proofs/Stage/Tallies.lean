import Mathlib.Algebra.GroupWithZero.Nat
import PreAggregation.Proofs.Config.Validation
import PreAggregation.Proofs.Stage.Failures
import PreAggregation.Proofs.Stage.Journal
import PreAggregation.SumCount

/-!
# What a stage tallies

A stage counts its flushes, reports them in its metrics, and keeps the latest intervals
between them in its histogram.  All of this agrees with the journal, whatever is called,
whatever fails, and however often the stage is opened and closed: only flushes that
succeed are counted, and the histogram begins anew with every opening.
-/

namespace PreAggregation

namespace Entry

variable {φ κ ν ι ο : Type}

/-- The kind of the outcome of an adjustment. -/
def adjustment? : Entry φ κ ν ι ο → Option OutcomeKind
  | .adjusted kind => some kind
  | .opened _ | .folded .. | .refused .. | .flushed .. | .withheld _ | .closed => none

/-- Whether an entry tells that the stage was opened. -/
def isOpened : Entry φ κ ν ι ο → Bool
  | .opened _ => true
  | .folded .. | .refused .. | .flushed .. | .withheld _ | .adjusted _ | .closed => false

/-- The kinds of the outcomes of all adjustments. -/
def adjustments (journal : List (Entry φ κ ν ι ο)) : List OutcomeKind :=
  journal.filterMap adjustment?

/-- What happened since the stage was last opened, or built if it never was. -/
def sinceOpened (journal : List (Entry φ κ ν ι ο)) : List (Entry φ κ ν ι ο) :=
  journal.rtakeWhile fun entry => !entry.isOpened

theorem adjustments_concat
    (journal : List (Entry φ κ ν ι ο))
    (entry : Entry φ κ ν ι ο) :
    adjustments (journal ++ [entry]) = adjustments journal ++ entry.adjustment?.toList :=
  filterMap_concat adjustment? journal entry

theorem sinceOpened_concat
    (journal : List (Entry φ κ ν ι ο))
    (entry : Entry φ κ ν ι ο) :
    sinceOpened (journal ++ [entry]) =
      if entry.isOpened then [] else sinceOpened journal ++ [entry] := by
  rw [sinceOpened, List.rtakeWhile_concat]
  cases entry.isOpened with
  | true => rfl
  | false => rfl

end Entry

open Entry

/-- The metrics that a journal tells of. -/
def Ledger.ofJournal {φ κ ν ι ο : Type} (journal : List (Entry φ κ ν ι ο)) : Ledger where
  flushes := (Entry.flushes journal).length
  flushedKeys := ((Entry.flushes journal).map fun flush => flush.1.size).sum
  emittedRecords := ((Entry.flushes journal).map fun flush => flush.2.length).sum
  intervals := (Entry.flushes journal).length
  adjustments := (Entry.adjustments journal).reverse

theorem Ledger.ofJournal_concat
    {φ κ ν ι ο : Type}
    (journal : List (Entry φ κ ν ι ο))
    (entry : Entry φ κ ν ι ο)
    (quiet : entry.flush? = none) :
    ofJournal (journal ++ [entry]) =
      { ofJournal journal with
        adjustments := entry.adjustment?.toList ++ (ofJournal journal).adjustments } := by
  simp only [ofJournal, flushes_concat, adjustments_concat, quiet, Option.toList_none,
    List.append_nil, List.reverse_append]
  cases entry.adjustment? <;> rfl

theorem Ledger.ofJournal_concat_flushed
    {φ κ ν ι ο : Type}
    (journal : List (Entry φ κ ν ι ο))
    (recalled : Recall φ)
    (now : Instant)
    (bundle : Bundle κ ν)
    (outputs : List ο) :
    ofJournal (journal ++ [.flushed recalled now bundle outputs]) =
      (ofJournal journal).recordFlush bundle.size outputs.length := by
  simp only [ofJournal, recordFlush, flushes_concat, adjustments_concat, flush?, adjustment?,
    Option.toList_some, Option.toList_none, List.map_append, List.sum_append, List.length_append,
    List.map_cons, List.map_nil, List.sum_cons, List.sum_nil, List.length_cons, List.length_nil,
    List.append_nil, Nat.zero_add, Nat.add_zero]

/-- A sample more is held, until the histogram is full. -/
theorem Histogram.length_samples_update_eq
    {histogram : Histogram}
    {count : Nat}
    (windowPositive : 0 < histogram.window)
    (held : histogram.samples.length = min count histogram.window)
    (sample : Nat) :
    (histogram.update sample).samples.length = min (count + 1) histogram.window := by
  simp only [update]
  split
  · simp
    omega
  · simp
    omega

/-! ## What a stage counts -/

namespace Stage

variable {φ κ ν ι ο : Type}

/-- A change of the threshold counts the outcome that it reports, and nothing else. -/
theorem Change.ledger_apply
    (change : Change)
    (stage : Stage κ ν) :
    (change.apply stage).ledger =
      { stage.ledger with
        adjustments := (change.reported? stage).toList ++ stage.ledger.adjustments } := by
  cases change with
  | setMaxCount maxCount => rfl
  | propose delta =>
      rw [apply, Stage.propose]
      split <;> rfl
  | applyPending =>
      rw [apply, Stage.applyPending]
      split <;> rfl
  | adjust delta =>
      simp only [apply, reported?, Stage.adjust]
      split <;> rfl
  | receive payload =>
      simp only [apply, reported?, Stage.receive]
      cases stage.controller with
      | none => rfl
      | some controller =>
          simp only [Option.bind_some]
          cases (controller.receive stage.trigger payload).2.2 with
          | error error => rfl
          | ok outcome => rfl

/-- A payload that is an adjustment is one, and its outcome is counted.  Any other payload
leaves the stage as it is. -/
theorem receive_counts
    {controller : Controller}
    (stage : Stage κ ν)
    (present : stage.controller = some controller)
    (payload : List UInt8) :
    match Adjustment.parse payload with
    | .error _ => stage.receive payload = stage
    | .ok delta => ∃ outcome,
        (stage.adjust delta).2 = some outcome ∧
        stage.receive payload = (stage.adjust delta).1 ∧
        ∀ kind, (stage.receive payload).ledger.adjusted kind =
          stage.ledger.adjusted kind + if outcome.kind = kind then 1 else 0 := by
  cases parsed : Adjustment.parse payload with
  | error error =>
      simp only [receive, present, Controller.receive, parsed, Ledger.recordReceived]
      rw [← present]
  | ok delta =>
      refine ⟨(controller.adjust stage.trigger delta).2.2, ?_, ?_, ?_⟩
      · simp only [adjust, present]
      · simp only [receive, adjust, present, Controller.receive, parsed, Ledger.recordReceived]
      · intro kind
        simp only [receive, present, Controller.receive, parsed, Ledger.recordReceived,
          Ledger.adjusted, Ledger.recordAdjustment, List.count_cons, beq_iff_eq]

/-- The numbers that a stage keeps are those that the journal tells. -/
structure Tallies
    (window : Nat)
    (journal : List (Entry φ κ ν ι ο))
    (stage : Stage κ ν) : Prop where
  /-- The number of flushes. -/
  flushCount_eq : stage.flushCount = (Entry.flushes journal).length
  /-- The metrics. -/
  ledger_eq : stage.ledger = .ofJournal journal
  /-- The settings ask for so many samples. -/
  configured_eq : stage.config.histogramWindow.toNat = window
  /-- So many samples are kept. -/
  window_eq : stage.histogram.window = window
  /-- The samples are those since the stage was last opened. -/
  length_samples_eq :
    stage.histogram.samples.length = min (Entry.flushes (sinceOpened journal)).length window

section Tallies

variable {window : Nat} {journal : List (Entry φ κ ν ι ο)} {stage : Stage κ ν}

theorem tallies_of_ofTrigger
    {config : Config}
    {trigger : Trigger}
    {link : ControlLink}
    {built : Instant}
    (constructed : ofTrigger config trigger link built = .ok stage) :
    0 < config.histogramWindow.toNat ∧
      stage.Tallies config.histogramWindow.toNat ([] : List (Entry φ κ ν ι ο)) := by
  obtain ⟨valid, rfl⟩ := ofTrigger_eq_ok_iff.mp constructed
  have positive : 0 < config.histogramWindow.toNat := by
    refine Nat.pos_of_ne_zero fun zero => ?_
    have isValid := Config.validate_eq_ok_iff_isValid.mp valid
    exact isValid.histogramWindow_ne (UInt64.toNat_inj.mp zero)
  refine ⟨positive, ?_⟩
  exact
    { flushCount_eq := rfl
      ledger_eq := rfl
      configured_eq := rfl
      window_eq := by
        change max config.histogramWindow.toNat 1 = _
        omega
      length_samples_eq := (Nat.zero_min _).symm }

/-- What neither flushes nor opens keeps the tallies, if the stage counts the outcome. -/
theorem Tallies.quiet
    (tallies : stage.Tallies window journal)
    {entry : Entry φ κ ν ι ο}
    (unflushed : entry.flush? = none)
    (unopened : entry.isOpened = false)
    {next : Stage κ ν}
    (flushCount_eq : next.flushCount = stage.flushCount)
    (ledger_eq : next.ledger =
      { stage.ledger with adjustments := entry.adjustment?.toList ++ stage.ledger.adjustments })
    (config_eq : next.config = stage.config)
    (histogram_eq : next.histogram = stage.histogram) :
    next.Tallies window (journal ++ [entry]) where
  flushCount_eq := by
    rw [flushCount_eq, tallies.flushCount_eq, flushes_concat, unflushed, Option.toList_none,
      List.append_nil]
  ledger_eq := by
    rw [ledger_eq, tallies.ledger_eq, Ledger.ofJournal_concat journal entry unflushed]
  configured_eq := by rw [config_eq, tallies.configured_eq]
  window_eq := by rw [histogram_eq, tallies.window_eq]
  length_samples_eq := by
    rw [histogram_eq, tallies.length_samples_eq, sinceOpened_concat, unopened,
      if_neg Bool.false_ne_true, flushes_concat, unflushed, Option.toList_none, List.append_nil]

theorem Tallies.opened
    (tallies : stage.Tallies window journal)
    (windowPositive : 0 < window)
    (now : Instant)
    (subtask : Subtask)
    (broker : MemoryBroker) :
    (stage.start now subtask broker).1.Tallies window (journal ++ [.opened now]) := by
  obtain ⟨listening, started⟩ := stage.exists_start_eq now subtask broker
  rw [started]
  exact
    { flushCount_eq := by
        rw [flushes_concat]
        exact tallies.flushCount_eq.trans (congrArg List.length (List.append_nil _).symm)
      ledger_eq := by
        rw [Ledger.ofJournal_concat journal _ rfl]
        exact tallies.ledger_eq
      configured_eq := tallies.configured_eq
      window_eq := by
        change max stage.config.histogramWindow.toNat 1 = window
        rw [tallies.configured_eq]
        omega
      length_samples_eq := by
        rw [sinceOpened_concat]
        exact (Nat.zero_min _).symm }

theorem Tallies.closed
    (tallies : stage.Tallies window journal)
    (broker : MemoryBroker) :
    (stage.stop broker).1.Tallies window (journal ++ [.closed]) := by
  rw [fst_stop]
  exact tallies.quiet rfl rfl rfl rfl rfl rfl

theorem Tallies.flushed
    (tallies : stage.Tallies window journal)
    (windowPositive : 0 < window)
    (recalled : Recall φ)
    (now : Instant)
    (outputs : List ο) :
    (stage.flushed now outputs.length).Tallies window
      (journal ++ [.flushed recalled now stage.bundle outputs]) where
  flushCount_eq := by
    rw [flushes_concat, List.length_append, ← tallies.flushCount_eq]
    rfl
  ledger_eq := by
    rw [Ledger.ofJournal_concat_flushed, ← tallies.ledger_eq]
    rfl
  configured_eq := tallies.configured_eq
  window_eq := tallies.window_eq
  length_samples_eq := by
    have held := tallies.length_samples_eq
    rw [← tallies.window_eq] at held windowPositive ⊢
    rw [sinceOpened_concat, isOpened, if_neg Bool.false_ne_true, flushes_concat, List.length_append]
    exact Histogram.length_samples_update_eq windowPositive held _

end Tallies

end Stage

namespace Bench

variable {φ κ ν ι ο : Type} [DecidableEq κ] {combiner : Combiner φ κ ν ι ο}

/-- Every move keeps the tallies. -/
theorem Move.tallies
    {window : Nat}
    (windowPositive : 0 < window)
    {bench next : Bench φ κ ν ο}
    {journal entries : List (Entry φ κ ν ι ο)}
    (move : Move combiner bench entries next)
    (tallies : bench.stage.Tallies window journal) :
    next.stage.Tallies window (journal ++ entries) := by
  cases move with
  | folded arrived addition => exact tallies.quiet rfl rfl rfl rfl rfl rfl
  | refused failure => exact tallies.quiet rfl rfl rfl rfl rfl rfl
  | idle now nothing => exact tallies.flushed windowPositive _ now []
  | flushed now occupied collected => exact tallies.flushed windowPositive _ now _
  | withheld occupied failed => exact tallies.quiet rfl rfl rfl rfl rfl rfl
  | overdue occupied failed => exact tallies.quiet rfl rfl rfl rfl rfl rfl
  | changed change =>
      obtain ⟨maxCount, controller, adjustments, changed⟩ := change.exists_apply_eq bench.stage
      have counted := change.ledger_apply bench.stage
      rw [changed] at counted
      rw [changed]
      cases reported : change.reported? bench.stage with
      | none =>
          rw [reported] at counted
          rw [Option.toList_none, List.map_nil, List.append_nil]
          exact { tallies with ledger_eq := counted.trans tallies.ledger_eq }
      | some kind =>
          rw [reported] at counted
          exact tallies.quiet rfl rfl rfl counted rfl rfl

end Bench

/-! ## Functions that pass on every key -/

namespace Combiner

variable {φ κ ν ι ο : Type}

/-- Where it succeeds, the function pushes one output for each key. -/
def PassesOn (combiner : Combiner φ κ ν ι ο) : Prop :=
  ∀ memory bundle output, (combiner.collect memory bundle output).2.2 = .ok () →
    (combiner.collect memory bundle output).2.1.length = output.length + bundle.size

theorem passesOn_ofFold
    (key : ι → κ)
    (fold : Option ν → ι → ν) :
    (ofAggregation (.ofFold key fold)).PassesOn :=
  fun _ _ _ _ => List.length_append

end Combiner

namespace Bench

variable {φ κ ν ι ο : Type} [DecidableEq κ] {combiner : Combiner φ κ ν ι ο}

/-- A flush of such a function that succeeds has one output for each key. -/
theorem Move.passesOn
    (passesOn : combiner.PassesOn)
    {bench next : Bench φ κ ν ο}
    {entries : List (Entry φ κ ν ι ο)}
    (move : Move combiner bench entries next) :
    ∀ flush ∈ flushes entries, flush.2.length = flush.1.size := by
  cases move with
  | idle now nothing =>
      intro flush member
      rw [List.mem_singleton.mp member, Bundle.size, List.isEmpty_iff.mp nothing]
      rfl
  | flushed now occupied collected =>
      intro flush member
      have pushed := passesOn bench.memory bench.stage.bundle bench.output
      rw [collected] at pushed
      have length_eq := pushed rfl
      rw [List.length_append] at length_eq
      rw [List.mem_singleton.mp member]
      exact Nat.add_left_cancel length_eq
  | changed change =>
      intro flush member
      cases reported : change.reported? bench.stage with
      | none =>
          rw [reported] at member
          exact absurd member List.not_mem_nil
      | some kind =>
          rw [reported] at member
          exact absurd member List.not_mem_nil
  | _ => exact fun _ member => absurd member List.not_mem_nil

theorem Life.flushes_passOn
    (passesOn : combiner.PassesOn)
    (memory : φ)
    (stage : Stage κ ν)
    (calls : List (List ο × Call ι)) :
    ∀ flush ∈ flushes (run combiner memory stage calls).journal,
      flush.2.length = flush.1.size := by
  have others (journal : List (Entry φ κ ν ι ο)) (entry : Entry φ κ ν ι ο)
      (quiet : entry.flush? = none)
      (before : ∀ flush ∈ flushes journal, flush.2.length = flush.1.size) :
      ∀ flush ∈ flushes (journal ++ [entry]), flush.2.length = flush.1.size := by
    rw [flushes_concat, quiet, Option.toList_none, List.append_nil]
    exact before
  apply Life.preserve
    (motive := fun journal _ _ => ∀ flush ∈ flushes journal, flush.2.length = flush.1.size)
  · intro bench next journal entries move before flush member
    rw [flushes, List.filterMap_append] at member
    rcases List.mem_append.mp member with earlier | recent
    · exact before flush earlier
    · exact move.passesOn passesOn flush recent
  · exact fun now subtask broker => others _ _ rfl
  · exact fun broker => others _ _ rfl
  · exact fun _ member => absurd member List.not_mem_nil

/-- Whatever is called from its construction on and whatever fails, a stage counts just the
flushes that succeeded: as such, in the metrics, and by their intervals, of which the histogram
keeps the latest since the last opening.  The metrics count the keys of the bundles that were
flushed and the outputs that were pushed, which are the same number if each key makes one
output.  An outcome is counted for every payload that is an adjustment, and for no other. -/
theorem tallies_tell_flushes
    (combiner : Combiner φ κ ν ι ο)
    {config : Config}
    {trigger : Trigger}
    {link : ControlLink}
    {built : Instant}
    {stage : Stage κ ν}
    (constructed : Stage.ofTrigger config trigger link built = .ok stage)
    (memory : φ)
    (calls : List (List ο × Call ι)) :
    let life := Life.run combiner memory stage calls
    let flushes := Entry.flushes life.journal
    let keys := (flushes.map fun flush => flush.1.size).sum
    let outputs := (flushes.map fun flush => flush.2.length).sum
    life.bench.stage.flushCount = flushes.length ∧
    life.bench.stage.ledger.counters =
      [("combinecrab_flushes_total", flushes.length),
        ("combinecrab_flushed_keys_total", keys),
        ("combinecrab_emitted_records_total", outputs),
        ("combinecrab_flush_interval_ms", flushes.length)] ++
      OutcomeKind.all.map (fun kind =>
        ("combinecrab_adjustments_total\x7boutcome=" ++ kind.label ++ "\x7d",
          (Entry.adjustments life.journal).count kind)) ∧
    life.bench.stage.histogram.samples.length =
      min (Entry.flushes (Entry.sinceOpened life.journal)).length config.histogramWindow.toNat ∧
    life.delivered = flushes.flatMap Prod.snd ∧
    (combiner.PassesOn → keys = outputs ∧ outputs = life.delivered.length) ∧
    (∀ key : κ × Float → κ,
      (Combiner.ofAggregation { Aggregation.sumCount κ with key }).PassesOn) ∧
    (∀ key : ι → κ, (Combiner.ofAggregation (.count key)).PassesOn) ∧
    ∀ controller payload, life.bench.stage.controller = some controller →
      match Adjustment.parse payload with
      | .error _ => life.bench.stage.receive payload = life.bench.stage
      | .ok delta => ∃ outcome,
          (life.bench.stage.adjust delta).2 = some outcome ∧
          life.bench.stage.receive payload = (life.bench.stage.adjust delta).1 ∧
          ∀ kind, (life.bench.stage.receive payload).ledger.adjusted kind =
            life.bench.stage.ledger.adjusted kind + if outcome.kind = kind then 1 else 0 := by
  intro life flushes keys outputs
  obtain ⟨windowPositive, begins⟩ := Stage.tallies_of_ofTrigger constructed
  have tallies : life.bench.stage.Tallies config.histogramWindow.toNat life.journal :=
    Life.preserve (motive := fun journal _ stage => stage.Tallies _ journal)
      (fun move tallies => move.tallies windowPositive tallies)
      (fun now subtask broker tallies => tallies.opened windowPositive now subtask broker)
      (fun broker tallies => tallies.closed broker) begins calls
  have delivered : life.delivered = flushes.flatMap Prod.snd :=
    (Life.delivered_run memory stage calls).trans (flatMap_outputs life.journal)
  refine ⟨tallies.flushCount_eq, ?_, tallies.length_samples_eq, delivered, ?_, ?_, ?_, ?_⟩
  · have counted (kind : OutcomeKind) : life.bench.stage.ledger.adjusted kind =
        (Entry.adjustments life.journal).count kind := by
      rw [Ledger.adjusted, tallies.ledger_eq]
      exact List.count_reverse
    simp only [Ledger.counters, counted]
    rw [tallies.ledger_eq]
    rfl
  · intro passesOn
    have each := Life.flushes_passOn passesOn memory stage calls
    have same : keys = outputs :=
      congrArg List.sum (List.map_congr_left fun flush member => (each flush member).symm)
    refine ⟨same, ?_⟩
    rw [delivered, List.length_flatMap]
  · exact fun key => Combiner.passesOn_ofFold key _
  · exact fun key => Combiner.passesOn_ofFold key _
  · exact fun controller payload present => life.bench.stage.receive_counts present payload

/-- A flush fails and another finds nothing, a record is refused, and the stage is opened twice.
Four flushes succeed, three of them since the second opening; the histogram keeps two.  Of the
two payloads one is an adjustment. -/
theorem tallies_tell_flushes_reopened :
    let cause : Error := ⟨.custom "too large", []⟩
    let combiner := smallSums cause
    let config := { Config.ofCount 3 with histogramWindow := 2 }
    let trigger : Trigger := ⟨0, 3, some 1000000, .global⟩
    let stage : Stage Nat Nat := .unopened config trigger .absent 0
    let subtask : Subtask := ⟨"sums", 0, 1⟩
    let calls : List (List Nat × Call (Nat × Nat)) :=
      [([], .start 1 subtask .empty), ([7], .ask (.batch [⟨2, 2, (1, 4)⟩, ⟨3, 3, (2, 5)⟩])),
        ([8], .ask (.flush 4)), ([], .ask (.finish 5)),
        ([], .ask (.change (.receive [0x2B, 0x31]))), ([], .ask (.change (.receive [0x78]))),
        ([], .stop .empty), ([], .start 6 subtask .empty), ([], .ask (.flush 7)),
        ([], .ask (.batch [⟨8, 8, (1, 12)⟩, ⟨9, 9, (2, 5)⟩, ⟨10, 10, (3, 1)⟩])),
        ([], .ask (.batch [⟨11, 11, (1, 0)⟩])), ([9], .ask (.tick 1000010 1000011)),
        ([], .ask (.timeTrigger 1000012))]
    let life := Life.run combiner 0 stage calls
    Stage.ofTrigger config trigger .absent 0 = .ok stage ∧
      (Entry.flushes life.journal).map (fun flush => (flush.1.entries, flush.2)) =
        [([(1, 4), (2, 5)], [4, 5]), ([], []), ([(2, 5), (3, 1)], [5, 1]), ([], [])] ∧
      life.bench.stage.flushCount = 4 ∧
      life.bench.stage.histogram.samples.length = 2 ∧
      ("combinecrab_flushed_keys_total", 4) ∈ life.bench.stage.ledger.counters ∧
      life.bench.stage.ledger.emittedRecords = life.delivered.length ∧
      Adjustment.parse [0x78] = .error ⟨.stage (.invalidAdjustment "x"), []⟩ ∧
      life.bench.stage.receive [0x78] = life.bench.stage := by
  intro cause combiner config trigger stage subtask calls life
  have constructed : Stage.ofTrigger config trigger .absent 0 = .ok stage :=
    Stage.ofTrigger_eq_ok_iff.mpr ⟨by decide +kernel, rfl⟩
  have passesOn : combiner.PassesOn := by
    intro memory bundle output succeeds
    simp only [combiner, smallSums] at succeeds ⊢
    split at succeeds
    · rename_i small
      rw [List.takeWhile_eq_self_iff.mpr (List.all_eq_true.mp small), List.length_append,
        List.length_map]
      rfl
    · cases succeeds
  have flushed : (Entry.flushes life.journal).map (fun flush => (flush.1.entries, flush.2)) =
      [([(1, 4), (2, 5)], [4, 5]), ([], []), ([(2, 5), (3, 1)], [5, 1]), ([], [])] := by
    decide +kernel
  have length_eq : (Entry.flushes life.journal).length = 4 := by
    rw [← List.length_map (fun flush => (flush.1.entries, flush.2)), flushed]
    rfl
  obtain ⟨counts, counters, holds, -, agree, -, -, heeds⟩ :=
    tallies_tell_flushes combiner constructed 0 calls
  have parsed : Adjustment.parse [0x78] = .error ⟨.stage (.invalidAdjustment "x"), []⟩ := by
    decide +kernel
  refine ⟨constructed, flushed, ?_, ?_, ?_, ?_, parsed, ?_⟩
  · rw [counts]
    exact length_eq
  · rw [holds]
    decide +kernel
  · rw [counters]
    decide +kernel
  · have outputs : life.bench.stage.ledger.emittedRecords =
        ((Entry.flushes life.journal).map fun flush => flush.2.length).sum := by
      decide +kernel
    rw [outputs]
    exact (agree passesOn).2
  · have heeded := heeds (.ofSubtask 0) [0x78]
    rw [parsed] at heeded
    refine heeded ?_
    decide +kernel

end Bench
end PreAggregation
