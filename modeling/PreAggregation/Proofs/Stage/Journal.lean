import PreAggregation.Proofs.Deployment.Wiring
import PreAggregation.Proofs.Histories
import PreAggregation.Proofs.Stage.Bench

/-!
# The journal of a stage

From its construction on, a stage is opened, called and closed any number of times, and
every call is handed a buffer.  The journal tells what the calls did: which records were
folded, which flushes succeeded and with what outputs, and what came of adjustments.  Where
the function of the stage was asked, the journal tells what it remembered before and behind.
The journal of a call is read off the results of folding and flushing.

To serve a request takes a row of moves.  The moves say once what can become of an open stage,
and with which entry in the journal; what they and the openings and closings preserve holds
behind every life of a stage.
-/

namespace PreAggregation

namespace Stage

variable {κ ν : Type}

/-- An open stage has begun anew, and may have a subscription. -/
theorem exists_start_eq
    (stage : Stage κ ν)
    (now : Instant)
    (subtask : Subtask)
    (broker : MemoryBroker) :
    ∃ listening, (stage.start now subtask broker).1 =
      { stage.reopened now subtask with listening } := by
  rw [start_eq, startListening_eq]
  split
  · exact ⟨_, rfl⟩
  · exact ⟨_, rfl⟩

theorem fst_stop
    (stage : Stage κ ν)
    (broker : MemoryBroker) :
    (stage.stop broker).1 =
      { stage with listening := none, controller := none, bundle := .empty } := by
  rw [stop]
  simp only [fst_stopListening]

/-- The kind of the outcome that a change of the threshold reports. -/
def Change.reported? (stage : Stage κ ν) : Change → Option OutcomeKind
  | .adjust delta => (stage.adjust delta).2.map Outcome.kind
  | .receive payload =>
      stage.controller.bind fun controller =>
        (controller.receive stage.trigger payload).2.2.toOption.map Outcome.kind
  | .setMaxCount _ | .propose _ | .applyPending => none

end Stage

/-- What a function remembers when it is asked, and when it has answered. -/
structure Recall (φ : Type) where
  /-- What it remembers when it is asked. -/
  before : φ
  /-- What it remembers when it has answered. -/
  behind : φ
  deriving DecidableEq

/-- A record that was folded into the partial of its key. -/
structure Fold (φ ι : Type) where
  /-- What the function remembered. -/
  recalled : Recall φ
  /-- What the clock showed when the record arrived. -/
  arrived : Instant
  /-- The record. -/
  record : ι
  deriving DecidableEq

/-- What a call can do to a stage. -/
inductive Entry (φ κ ν ι ο : Type)
  /-- The stage was opened. -/
  | opened (now : Instant)
  /-- A record was folded into the partial of its key. -/
  | folded (fold : Fold φ ι)
  /-- A record could not be folded. -/
  | refused (recalled : Recall φ) (record : ι)
  /-- A flush of a bundle succeeded with these outputs.  Without a bundle the function was not
  asked, and remembers what it did. -/
  | flushed (recalled : Recall φ) (now : Instant) (bundle : Bundle κ ν) (outputs : List ο)
  /-- A flush failed. -/
  | withheld (recalled : Recall φ)
  /-- An adjustment had an outcome of this kind. -/
  | adjusted (kind : OutcomeKind)
  /-- The stage was closed. -/
  | closed

namespace Entry

variable {φ κ ν ι ο : Type}

/-- What an entry adds to the output. -/
def outputs : Entry φ κ ν ι ο → List ο
  | .flushed _ _ _ outputs => outputs
  | .opened _ | .folded _ | .refused .. | .withheld _ | .adjusted _ | .closed => []

/-- The bundle and the outputs of a flush that succeeded. -/
def flush? : Entry φ κ ν ι ο → Option (Bundle κ ν × List ο)
  | .flushed _ _ bundle outputs => some (bundle, outputs)
  | .opened _ | .folded _ | .refused .. | .withheld _ | .adjusted _ | .closed => none

/-- The flushes that succeeded, with their bundles and outputs. -/
def flushes (journal : List (Entry φ κ ν ι ο)) : List (Bundle κ ν × List ο) :=
  journal.filterMap flush?

theorem flushes_concat
    (journal : List (Entry φ κ ν ι ο))
    (entry : Entry φ κ ν ι ο) :
    flushes (journal ++ [entry]) = flushes journal ++ entry.flush?.toList :=
  filterMap_concat flush? journal entry

theorem flatMap_outputs (journal : List (Entry φ κ ν ι ο)) :
    journal.flatMap outputs = (flushes journal).flatMap Prod.snd := by
  induction journal with
  | nil => rfl
  | cons entry rest inductionHypothesis =>
      rw [List.flatMap_cons, inductionHypothesis, flushes, flushes]
      cases entry with
      | flushed recalled now bundle outputs => rw [List.filterMap_cons, flush?]; rfl
      | _ => rfl

end Entry

namespace Bench

variable {φ κ ν ι ο : Type}

/-- A record that arrives. -/
structure Arrival (ι : Type) where
  /-- What the clock shows when the record arrives. -/
  arrived : Instant
  /-- What the clock shows when the record leads to a flush. -/
  now : Instant
  /-- The record. -/
  record : ι

/-- What can be asked of an open stage. -/
inductive Request (ι : Type)
  | batch (arrivals : List (Arrival ι))
  | flush (now : Instant)
  /-- The bundle is emitted because its time has come. -/
  | timeTrigger (now : Instant)
  /-- The clock is read for the time threshold, and again for the flush. -/
  | tick (asked now : Instant)
  /-- There are no more records. -/
  | finish (now : Instant)
  | change (change : Stage.Change)

/-- A call of a stage.  Brokers and buffers belong to those who call. -/
inductive Call (ι : Type)
  | start (now : Instant) (subtask : Subtask) (broker : MemoryBroker)
  | ask (request : Request ι)
  | stop (broker : MemoryBroker)

/-- The stage with its trigger reset. -/
def restarted (bench : Bench φ κ ν ο) : Bench φ κ ν ο :=
  { bench with stage := { bench.stage with trigger := bench.stage.trigger.reset } }

/-- The journal of a flush. -/
def flushEntries
    (combiner : Combiner φ κ ν ι ο)
    (now : Instant)
    (bench : Bench φ κ ν ο) : List (Entry φ κ ν ι ο) :=
  let attempt := flush combiner now bench
  let recalled : Recall φ := ⟨bench.memory, attempt.state.memory⟩
  match attempt.result with
  | .ok () =>
      [.flushed recalled now bench.stage.bundle (attempt.state.output.drop bench.output.length)]
  | .error _ => [.withheld recalled]

variable [DecidableEq κ]

/-- What an open stage makes of a request. -/
def serve
    (combiner : Combiner φ κ ν ι ο)
    (bench : Bench φ κ ν ο) : Request ι → Attempt (Bench φ κ ν ο)
  | .batch arrivals =>
      processBatch combiner (arrivals.map fun arrival => (arrival.now, arrival.record)) bench
  | .flush now => flush combiner now bench
  | .timeTrigger now => timeTrigger combiner now bench
  | .tick asked now => onProcessingTime combiner asked now bench
  | .finish now => onEnd combiner now bench
  | .change change => { state := { bench with stage := change.apply bench.stage } }

/-- What a call makes of a stage. -/
def perform
    (combiner : Combiner φ κ ν ι ο)
    (bench : Bench φ κ ν ο) : Call ι → Attempt (Bench φ κ ν ο)
  | .start now subtask broker =>
      { state := { bench with stage := (bench.stage.start now subtask broker).1 } }
  | .ask request => serve combiner bench request
  | .stop broker => { state := { bench with stage := (bench.stage.stop broker).1 } }

/-- The journal of a record. -/
def elementEntries
    (combiner : Combiner φ κ ν ι ο)
    (arrival : Arrival ι)
    (bench : Bench φ κ ν ο) : List (Entry φ κ ν ι ο) :=
  let key := combiner.key arrival.record
  match combiner.addInput bench.memory (bench.stage.bundle.get? key) arrival.record with
  | (memory, .error _) => [.refused ⟨bench.memory, memory⟩ arrival.record]
  | (memory, .ok merged) =>
      .folded ⟨⟨bench.memory, memory⟩, arrival.arrived, arrival.record⟩ ::
        if bench.stage.trigger.onElement.2 then
          flushEntries combiner arrival.now
            { bench with memory, stage := bench.stage.withMerged key merged }
        else []

/-- The journal of a batch, up to the first record that fails. -/
def batchEntries
    (combiner : Combiner φ κ ν ι ο) :
    List (Arrival ι) → Bench φ κ ν ο → List (Entry φ κ ν ι ο)
  | [], _ => []
  | arrival :: rest, bench =>
      let attempt := processElement combiner arrival.now arrival.record bench
      elementEntries combiner arrival bench ++
        match attempt.result with
        | .ok () => batchEntries combiner rest attempt.state
        | .error _ => []

/-- The journal of a request. -/
def requestEntries
    (combiner : Combiner φ κ ν ι ο)
    (bench : Bench φ κ ν ο) : Request ι → List (Entry φ κ ν ι ο)
  | .batch arrivals => batchEntries combiner arrivals bench
  | .flush now => flushEntries combiner now bench
  | .timeTrigger now => flushEntries combiner now bench.restarted
  | .tick asked now =>
      if bench.stage.isDue asked then flushEntries combiner now bench.restarted else []
  | .finish now => if bench.stage.bundle.isEmpty then [] else flushEntries combiner now bench
  | .change change => (change.reported? bench.stage).toList.map .adjusted

/-- The journal of a call. -/
def entries
    (combiner : Combiner φ κ ν ι ο)
    (bench : Bench φ κ ν ο) : Call ι → List (Entry φ κ ν ι ο)
  | .start now _ _ => [.opened now]
  | .ask request => requestEntries combiner bench request
  | .stop _ => [.closed]

/-! ## Batches -/

section Batches

variable {combiner : Combiner φ κ ν ι ο} {arrival : Arrival ι} {bench : Bench φ κ ν ο}

theorem serve_batch_cons_of_ok
    (succeeds : (processElement combiner arrival.now arrival.record bench).result = .ok ())
    (rest : List (Arrival ι)) :
    serve combiner bench (.batch (arrival :: rest)) =
      serve combiner (processElement combiner arrival.now arrival.record bench).state
        (.batch rest) :=
  processBatch_cons_of_ok (congrArg (Attempt.mk _) succeeds) _

theorem serve_batch_cons_of_error
    {cause : Error}
    (fails : (processElement combiner arrival.now arrival.record bench).result = .error cause)
    (rest : List (Arrival ι)) :
    serve combiner bench (.batch (arrival :: rest)) =
      processElement combiner arrival.now arrival.record bench :=
  (processBatch_cons_of_error (congrArg (Attempt.mk _) fails) _).trans
    (congrArg (Attempt.mk _) fails.symm)

end Batches

/-! ## Moves -/

/-- What can become of an open stage at once, with the entries about it. -/
inductive Move (combiner : Combiner φ κ ν ι ο) :
    Bench φ κ ν ο → List (Entry φ κ ν ι ο) → Bench φ κ ν ο → Prop
  | folded {bench : Bench φ κ ν ο} {memory : φ} {merged : ν} (arrived : Instant) {record : ι} :
      combiner.addInput bench.memory (bench.stage.bundle.get? (combiner.key record)) record =
        (memory, .ok merged) →
      Move combiner bench [.folded ⟨⟨bench.memory, memory⟩, arrived, record⟩]
        { bench with memory, stage := bench.stage.withMerged (combiner.key record) merged }
  | refused {bench : Bench φ κ ν ο} {memory : φ} {cause : Error} {record : ι} :
      combiner.addInput bench.memory (bench.stage.bundle.get? (combiner.key record)) record =
        (memory, .error cause) →
      Move combiner bench [.refused ⟨bench.memory, memory⟩ record]
        { bench with memory, stage := bench.stage.withoutKey (combiner.key record) }
  | idle {bench : Bench φ κ ν ο} (now : Instant) :
      bench.stage.bundle.isEmpty = true →
      Move combiner bench [.flushed ⟨bench.memory, bench.memory⟩ now bench.stage.bundle []]
        { bench with stage := bench.stage.flushed now 0 }
  | flushed {bench : Bench φ κ ν ο} {memory : φ} {outputs : List ο} (now : Instant) :
      bench.stage.bundle.isEmpty = false →
      combiner.collect bench.memory bench.stage.bundle bench.output =
        (memory, bench.output ++ outputs, .ok ()) →
      Move combiner bench [.flushed ⟨bench.memory, memory⟩ now bench.stage.bundle outputs]
        ⟨memory, bench.stage.flushed now outputs.length, bench.output ++ outputs⟩
  | withheld {bench : Bench φ κ ν ο} {memory : φ} {pushed : List ο} {cause : Error} :
      bench.stage.bundle.isEmpty = false →
      combiner.collect bench.memory bench.stage.bundle bench.output =
        (memory, pushed, .error cause) →
      Move combiner bench [.withheld ⟨bench.memory, memory⟩] { bench with memory }
  /-- The trigger has started over because the time has come, but the flush fails. -/
  | overdue {bench : Bench φ κ ν ο} {memory : φ} {pushed : List ο} {cause : Error} :
      bench.stage.bundle.isEmpty = false →
      combiner.collect bench.memory bench.stage.bundle bench.output =
        (memory, pushed, .error cause) →
      Move combiner bench [.withheld ⟨bench.memory, memory⟩] { bench.restarted with memory }
  | changed (bench : Bench φ κ ν ο) (change : Stage.Change) :
      Move combiner bench ((change.reported? bench.stage).toList.map .adjusted)
        { bench with stage := change.apply bench.stage }

/-- Moves behind one another. -/
inductive Moves (combiner : Combiner φ κ ν ι ο) :
    Bench φ κ ν ο → List (Entry φ κ ν ι ο) → Bench φ κ ν ο → Prop
  | none (bench : Bench φ κ ν ο) : Moves combiner bench [] bench
  | more {first middle last : Bench φ κ ν ο} {earlier later : List (Entry φ κ ν ι ο)} :
      Moves combiner first earlier middle → Move combiner middle later last →
      Moves combiner first (earlier ++ later) last

section Moves

variable {combiner : Combiner φ κ ν ι ο} {first middle last : Bench φ κ ν ο}
variable {earlier later : List (Entry φ κ ν ι ο)}

theorem Move.moves (move : Move combiner first later last) : Moves combiner first later last :=
  .more (.none first) move

theorem Moves.trans
    (before : Moves combiner first earlier middle)
    (behind : Moves combiner middle later last) :
    Moves combiner first (earlier ++ later) last := by
  induction behind with
  | none => rwa [List.append_nil]
  | more _ move inductionHypothesis =>
      rw [← List.append_assoc]
      exact .more inductionHypothesis move

/-- What every move preserves of a journal, of what the function remembers and of the stage,
moves behind one another preserve. -/
theorem Moves.preserve
    {motive : List (Entry φ κ ν ι ο) → φ → Stage κ ν → Prop}
    (step : ∀ {bench next journal entries}, Move combiner bench entries next →
      motive journal bench.memory bench.stage →
        motive (journal ++ entries) next.memory next.stage)
    {journal : List (Entry φ κ ν ι ο)}
    (holds : motive journal first.memory first.stage)
    (moves : Moves combiner first later last) :
    motive (journal ++ later) last.memory last.stage := by
  induction moves with
  | none => rwa [List.append_nil]
  | more _ move inductionHypothesis =>
      rw [← List.append_assoc]
      exact step move inductionHypothesis

/-- Moves push onto the buffer what the entries tell. -/
theorem Moves.output_eq (moves : Moves combiner first later last) :
    last.output = first.output ++ later.flatMap Entry.outputs := by
  induction moves with
  | none => exact (List.append_nil _).symm
  | more _ move inductionHypothesis =>
      rw [List.flatMap_append, ← List.append_assoc, ← inductionHypothesis]
      cases move with
      | flushed now occupied collected => rw [List.flatMap_singleton, Entry.outputs]
      | changed change =>
          cases change.reported? _ with
          | none => exact (List.append_nil _).symm
          | some kind => exact (List.append_nil _).symm
      | _ => exact (List.append_nil _).symm

end Moves

/-! ## Calls -/

section Calls

variable (combiner : Combiner φ κ ν ι ο)

omit [DecidableEq κ] in
/-- What the journal tells of a flush is what became of the stage and its buffer. -/
theorem flush_told
    (now : Instant)
    (bench : Bench φ κ ν ο) :
    (bench.stage.bundle.isEmpty = true ∧
      flush combiner now bench = { state := { bench with stage := bench.stage.flushed now 0 } } ∧
      flushEntries combiner now bench =
        [.flushed ⟨bench.memory, bench.memory⟩ now bench.stage.bundle []]) ∨
    (bench.stage.bundle.isEmpty = false ∧ ∃ memory outputs,
      combiner.collect bench.memory bench.stage.bundle bench.output =
          (memory, bench.output ++ outputs, .ok ()) ∧
        flush combiner now bench =
          { state :=
              ⟨memory, bench.stage.flushed now outputs.length, bench.output ++ outputs⟩ } ∧
        flushEntries combiner now bench =
          [.flushed ⟨bench.memory, memory⟩ now bench.stage.bundle outputs]) ∨
    (bench.stage.bundle.isEmpty = false ∧ ∃ memory pushed cause,
      combiner.collect bench.memory bench.stage.bundle bench.output =
          (memory, pushed, .error cause) ∧
        flush combiner now bench =
          { state := { bench with memory }
            result := .error (cause.within (.stage (.combine .collect))) } ∧
        flushEntries combiner now bench = [.withheld ⟨bench.memory, memory⟩]) := by
  rcases flush_cases combiner now bench with
    ⟨nothing, flushed⟩ | ⟨occupied, memory, output, collected, flushed⟩ |
    ⟨occupied, memory, pushed, cause, failed, flushed⟩
  · refine .inl ⟨nothing, flushed, ?_⟩
    rw [flushEntries, flushed]
    dsimp only
    rw [List.drop_length]
  · have pushes := combiner.collect_pushes bench.memory bench.stage.bundle bench.output
    rw [collected] at pushes
    obtain ⟨outputs, rfl⟩ := pushes
    rw [List.length_append, Nat.add_sub_cancel_left] at flushed
    refine .inr (.inl ⟨occupied, memory, outputs, collected, flushed, ?_⟩)
    rw [flushEntries, flushed]
    dsimp only
    rw [List.drop_left]
  · refine .inr (.inr ⟨occupied, memory, pushed, cause, failed, flushed, ?_⟩)
    rw [flushEntries, flushed]

theorem move_flush
    (now : Instant)
    (bench : Bench φ κ ν ο) :
    Move combiner bench (flushEntries combiner now bench) (flush combiner now bench).state := by
  rcases flush_told combiner now bench with
    ⟨nothing, flushed, told⟩ | ⟨occupied, memory, outputs, collected, flushed, told⟩ |
    ⟨occupied, memory, pushed, cause, failed, flushed, told⟩
  · rw [flushed, told]
    exact .idle now nothing
  · rw [flushed, told]
    exact .flushed now occupied collected
  · rw [flushed, told]
    exact .withheld occupied failed

/-- A flush that succeeds makes the trigger start over anyway. -/
theorem move_timeTrigger
    (now : Instant)
    (bench : Bench φ κ ν ο) :
    Move combiner bench (flushEntries combiner now bench.restarted)
      (timeTrigger combiner now bench).state := by
  change Move combiner bench _ (flush combiner now bench.restarted).state
  rcases flush_told combiner now bench.restarted with
    ⟨nothing, flushed, told⟩ | ⟨occupied, memory, outputs, collected, flushed, told⟩ |
    ⟨occupied, memory, pushed, cause, failed, flushed, told⟩
  · rw [flushed, told]
    exact .idle now nothing
  · rw [flushed, told]
    exact .flushed now occupied collected
  · rw [flushed, told]
    exact .overdue occupied failed

theorem moves_processElement
    (arrival : Arrival ι)
    (bench : Bench φ κ ν ο) :
    Moves combiner bench (elementEntries combiner arrival bench)
      (processElement combiner arrival.now arrival.record bench).state := by
  rcases processElement_cases combiner arrival.now bench arrival.record with
    ⟨memory, cause, failed, processed⟩ | ⟨memory, merged, folded, processed⟩
  · rw [elementEntries, failed, processed]
    exact (Move.refused failed).moves
  · rw [elementEntries, folded, processed]
    by_cases fires : bench.stage.trigger.onElement.2 = true
    · simp only [if_pos fires]
      exact (Move.folded arrival.arrived folded).moves.trans (move_flush combiner _ _).moves
    · simp only [if_neg fires]
      exact (Move.folded arrival.arrived folded).moves

theorem moves_processBatch
    (arrivals : List (Arrival ι))
    (bench : Bench φ κ ν ο) :
    Moves combiner bench (batchEntries combiner arrivals bench)
      (processBatch combiner (arrivals.map fun arrival => (arrival.now, arrival.record))
        bench).state := by
  induction arrivals generalizing bench with
  | nil => exact .none bench
  | cons arrival rest inductionHypothesis =>
      have head := moves_processElement combiner arrival bench
      rw [batchEntries, List.map_cons, processBatch]
      cases (processElement combiner arrival.now arrival.record bench).result with
      | error cause =>
          dsimp only
          rwa [List.append_nil]
      | ok done => exact head.trans (inductionHypothesis _)

/-- A request makes the moves that its journal tells. -/
theorem moves_serve
    (bench : Bench φ κ ν ο)
    (request : Request ι) :
    Moves combiner bench (requestEntries combiner bench request)
      (serve combiner bench request).state := by
  cases request with
  | batch arrivals => exact moves_processBatch combiner arrivals bench
  | flush now => exact (move_flush combiner now bench).moves
  | timeTrigger now => exact (move_timeTrigger combiner now bench).moves
  | tick asked now =>
      rw [requestEntries, serve, onProcessingTime_eq]
      split
      · exact (move_timeTrigger combiner now bench).moves
      · exact .none bench
  | finish now =>
      rw [requestEntries, serve, onEnd]
      split
      · exact .none bench
      · exact (move_flush combiner now bench).moves
  | change change => exact (Move.changed bench change).moves

/-- A call pushes onto its buffer what its entries tell. -/
theorem output_perform
    (bench : Bench φ κ ν ο)
    (call : Call ι) :
    (perform combiner bench call).state.output =
      bench.output ++ (entries combiner bench call).flatMap Entry.outputs := by
  cases call with
  | start now subtask broker => exact (List.append_nil _).symm
  | ask request => exact (moves_serve combiner bench request).output_eq
  | stop broker => exact (List.append_nil _).symm

end Calls

/-! ## Lives -/

/-- A stage with what its calls have pushed onto their buffers so far, and with the journal. -/
structure Life (φ κ ν ι ο : Type) where
  /-- The stage. -/
  bench : Bench φ κ ν ο
  /-- The outputs of all calls. -/
  delivered : List ο
  /-- The journal. -/
  journal : List (Entry φ κ ν ι ο)

namespace Life

/-- The life with another call, which is handed a buffer. -/
def call
    (combiner : Combiner φ κ ν ι ο)
    (life : Life φ κ ν ι ο)
    (call : List ο × Call ι) : Life φ κ ν ι ο :=
  let bench := { life.bench with output := call.1 }
  let reached := (perform combiner bench call.2).state
  { bench := reached
    delivered := life.delivered ++ reached.output.drop call.1.length
    journal := life.journal ++ entries combiner bench call.2 }

/-- The life of a stage with a function that remembers something. -/
def run
    (combiner : Combiner φ κ ν ι ο)
    (memory : φ)
    (stage : Stage κ ν)
    (calls : List (List ο × Call ι)) : Life φ κ ν ι ο :=
  calls.foldl (call combiner) ⟨⟨memory, stage, []⟩, [], []⟩

/-- The life with another request, which comes with a buffer. -/
def ask
    (combiner : Combiner φ κ ν ι ο)
    (life : Life φ κ ν ι ο)
    (asked : List ο × Request ι) : Life φ κ ν ι ο :=
  life.call combiner (asked.1, .ask asked.2)

/-- The life of an open stage, of which something is asked. -/
def serve
    (combiner : Combiner φ κ ν ι ο)
    (memory : φ)
    (stage : Stage κ ν)
    (requests : List (List ο × Request ι)) : Life φ κ ν ι ο :=
  run combiner memory stage (requests.map fun asked => (asked.1, .ask asked.2))

variable {combiner : Combiner φ κ ν ι ο}

theorem run_concat
    (memory : φ)
    (stage : Stage κ ν)
    (calls : List (List ο × Call ι))
    (call : List ο × Call ι) :
    run combiner memory stage (calls ++ [call]) =
      (run combiner memory stage calls).call combiner call := by
  rw [run, List.foldl_append]
  rfl

theorem serve_concat
    (memory : φ)
    (stage : Stage κ ν)
    (requests : List (List ο × Request ι))
    (asked : List ο × Request ι) :
    serve combiner memory stage (requests ++ [asked]) =
      (serve combiner memory stage requests).ask combiner asked := by
  rw [serve, List.map_append, List.map_singleton, run_concat]
  rfl

/-- What moves, openings and closings preserve of a journal, of what the function remembers and
of the stage holds behind all calls. -/
theorem preserve
    {motive : List (Entry φ κ ν ι ο) → φ → Stage κ ν → Prop}
    (moved : ∀ {bench next journal entries}, Move combiner bench entries next →
      motive journal bench.memory bench.stage →
        motive (journal ++ entries) next.memory next.stage)
    (opened : ∀ {journal memory stage} now subtask broker, motive journal memory stage →
      motive (journal ++ [.opened now]) memory (stage.start now subtask broker).1)
    (closed : ∀ {journal memory stage} broker, motive journal memory stage →
      motive (journal ++ [.closed]) memory (stage.stop broker).1)
    {memory : φ}
    {stage : Stage κ ν}
    (begins : motive [] memory stage)
    (calls : List (List ο × Call ι)) :
    let life := run combiner memory stage calls
    motive life.journal life.bench.memory life.bench.stage := by
  induction calls using List.reverseRecOn with
  | nil => exact begins
  | append_singleton calls call inductionHypothesis =>
      rw [run_concat]
      -- The buffer that the call is handed is no part of what is preserved.
      let before := run combiner memory stage calls
      let bench := { before.bench with output := call.1 }
      have handed : motive before.journal bench.memory bench.stage := inductionHypothesis
      obtain ⟨output, call⟩ := call
      cases call with
      | start now subtask broker => exact opened now subtask broker handed
      | ask request => exact (moves_serve combiner bench request).preserve moved handed
      | stop broker => exact closed broker handed

theorem delivered_run
    (memory : φ)
    (stage : Stage κ ν)
    (calls : List (List ο × Call ι)) :
    (run combiner memory stage calls).delivered =
      (run combiner memory stage calls).journal.flatMap Entry.outputs := by
  induction calls using List.reverseRecOn with
  | nil => rfl
  | append_singleton calls call inductionHypothesis =>
      rw [run_concat, Life.call, output_perform combiner _ call.2, List.drop_left,
        List.flatMap_append, inductionHypothesis]

end Life

end Bench
end PreAggregation
