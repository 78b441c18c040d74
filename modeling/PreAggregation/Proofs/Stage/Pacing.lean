import PreAggregation.Proofs.Stage.Heritage
import PreAggregation.Proofs.Stage.Retention

/-!
# The pace of flushes

As long as nothing fails, the trigger counts the records that were folded since the last
flush, and the bundle is made of just these.  So a record is followed by a flush if with
it there are as many of them as the threshold that is in force at that moment asks for,
however the records come in batches and whatever else is asked in between.
-/

namespace PreAggregation

namespace Entry

variable {φ κ ν ι ο : Type}

/-- The records that are not flushed, with what an entry does to them. -/
def extend (folds : List (Fold φ ι)) : Entry φ κ ν ι ο → List (Fold φ ι)
  | .folded fold => folds ++ [fold]
  | .opened _ | .flushed .. | .closed => []
  | .refused .. | .withheld _ | .adjusted _ => folds

/-- The records that were folded since the last flush, the oldest first. -/
def unflushed (journal : List (Entry φ κ ν ι ο)) : List (Fold φ ι) :=
  journal.foldl extend []

theorem unflushed_concat
    (journal : List (Entry φ κ ν ι ο))
    (entry : Entry φ κ ν ι ο) :
    unflushed (journal ++ [entry]) = entry.extend (unflushed journal) := by
  rw [unflushed, List.foldl_append]
  rfl

end Entry

namespace Combiner

variable {φ κ ν ι ο : Type} [DecidableEq κ]

/-- The bundle with a record folded into it. -/
def mergeInto
    (combiner : Combiner φ κ ν ι ο)
    (bundle : Bundle κ ν)
    (fold : Fold φ ι) : Bundle κ ν :=
  (bundle.merge (combiner.key fold.record) fun current =>
    (combiner.addInput fold.recalled.before current fold.record).2).1

/-- The bundle of some records. -/
def bundled
    (combiner : Combiner φ κ ν ι ο)
    (folds : List (Fold φ ι)) : Bundle κ ν :=
  folds.foldl combiner.mergeInto .empty

theorem bundled_concat
    (combiner : Combiner φ κ ν ι ο)
    (folds : List (Fold φ ι))
    (fold : Fold φ ι) :
    combiner.bundled (folds ++ [fold]) = combiner.mergeInto (combiner.bundled folds) fold := by
  rw [bundled, List.foldl_append]
  rfl

end Combiner

namespace Bench

open Entry

variable {φ κ ν ι ο : Type} [DecidableEq κ] {combiner : Combiner φ κ ν ι ο}

namespace Life

/-! ## Lives that keep pace -/

/-- Everything that counts the records since the last flush agrees with the journal. -/
structure KeepsPace
    (combiner : Combiner φ κ ν ι ο)
    (flushesBefore : Nat)
    (life : Life φ κ ν ι ο) : Prop where
  /-- The count of the trigger. -/
  count_eq : life.bench.stage.trigger.count = (unflushed life.journal).length
  /-- The bundle. -/
  bundle_eq : life.bench.stage.bundle = combiner.bundled (unflushed life.journal)
  /-- There is no partial just if there is no record. -/
  entries_eq_nil_iff :
    life.bench.stage.bundle.entries = [] ↔ life.bench.stage.trigger.count = 0
  /-- A threshold is positive. -/
  maxCount_pos : 0 < life.bench.stage.trigger.maxCount
  /-- The number of flushes. -/
  flushCount_eq :
    life.bench.stage.flushCount = flushesBefore + (flushes life.journal).length

/-- Whether a record is followed by a flush: with it as many records are unflushed as the
threshold in force asks for. -/
def IsDue (life : Life φ κ ν ι ο) : Prop :=
  life.bench.stage.trigger.maxCount ≤ (unflushed life.journal).length + 1

omit [DecidableEq κ] in
instance (life : Life φ κ ν ι ο) : Decidable life.IsDue :=
  inferInstanceAs (Decidable (_ ≤ _))

/-- What a record makes of a life. -/
structure Takes
    (combiner : Combiner φ κ ν ι ο)
    (life : Life φ κ ν ι ο)
    (arrival : Arrival ι)
    (next : Life φ κ ν ι ο) : Prop where
  /-- The record is folded, and then all unflushed records are flushed if this is due. -/
  journal_eq : ∃ memory,
    let fold : Fold φ ι := ⟨⟨life.bench.memory, memory⟩, arrival.arrived, arrival.record⟩
    let bundle := combiner.bundled (unflushed life.journal ++ [fold])
    if life.IsDue then
      ∃ last outputs, combiner.Emits ⟨memory, last⟩ bundle outputs ∧
        next.journal = life.journal ++
          [.folded fold, .flushed ⟨memory, last⟩ arrival.now bundle outputs] ∧
        next.delivered = life.delivered ++ outputs
    else next.journal = life.journal ++ [.folded fold] ∧ next.delivered = life.delivered
  /-- The number of flushes. -/
  flushCount_eq :
    next.bench.stage.flushCount = life.bench.stage.flushCount + if life.IsDue then 1 else 0
  /-- The threshold stays. -/
  maxCount_eq : next.bench.stage.trigger.maxCount = life.bench.stage.trigger.maxCount
  /-- The count stays below the threshold. -/
  count_lt : next.bench.stage.trigger.count < next.bench.stage.trigger.maxCount

end Life

/-! ## Flushes and records -/

omit [DecidableEq κ] in
theorem exists_flush_of_ok
    {now : Instant}
    {bench : Bench φ κ ν ο}
    (succeeds : (flush combiner now bench).result = .ok ()) :
    ∃ last outputs,
      (flush combiner now bench).state.stage = bench.stage.flushed now outputs.length ∧
      flushEntries combiner now bench =
        [.flushed ⟨bench.memory, last⟩ now bench.stage.bundle outputs] ∧
      (bench.stage.bundle.isEmpty = false →
        combiner.Emits ⟨bench.memory, last⟩ bench.stage.bundle outputs) := by
  rcases flush_told combiner now bench with
    ⟨nothing, flushed, told⟩ | ⟨-, memory, outputs, collected, flushed, told⟩ |
    ⟨-, memory, pushed, cause, -, flushed, -⟩
  · refine ⟨_, _, ?_, told, fun occupied => ?_⟩
    · rw [flushed]
      rfl
    · rw [nothing] at occupied
      cases occupied
  · refine ⟨_, _, ?_, told, fun _ => ⟨bench.output, collected⟩⟩
    rw [flushed]
  · rw [flushed] at succeeds
    cases succeeds

theorem isEmpty_withMerged
    (stage : Stage κ ν)
    (key : κ)
    (merged : ν) :
    (stage.withMerged key merged).bundle.isEmpty = false := by
  rw [Stage.withMerged, Bundle.isEmpty]
  cases stage.bundle.entries with
  | nil => rfl
  | cons entry rest =>
      rw [Bundle.assign]
      split
      · rfl
      · rfl

/-- A record that succeeds is folded and counted.  If the trigger fires, all that is then in
the bundle is flushed. -/
theorem processElement_of_ok
    {arrival : Arrival ι}
    {bench : Bench φ κ ν ο}
    (succeeds :
      (processElement combiner arrival.now arrival.record bench).result = .ok ()) :
    ∃ memory merged,
      let fold : Fold φ ι := ⟨⟨bench.memory, memory⟩, arrival.arrived, arrival.record⟩
      let next := bench.stage.withMerged (combiner.key arrival.record) merged
      let state := (processElement combiner arrival.now arrival.record bench).state
      next.bundle = combiner.mergeInto bench.stage.bundle fold ∧
      if bench.stage.trigger.onElement.2 then
        ∃ last outputs, combiner.Emits ⟨memory, last⟩ next.bundle outputs ∧
          state.stage = next.flushed arrival.now outputs.length ∧
          elementEntries combiner arrival bench =
            [.folded fold, .flushed ⟨memory, last⟩ arrival.now next.bundle outputs]
      else
        state.stage = next ∧ elementEntries combiner arrival bench = [.folded fold] := by
  rcases processElement_cases combiner arrival.now bench arrival.record with
    ⟨memory, cause, -, processed⟩ | ⟨memory, merged, folded, processed⟩
  · rw [processed] at succeeds
    cases succeeds
  · refine ⟨memory, merged, ?_, ?_⟩
    · simp only [Stage.withMerged, Combiner.mergeInto, Bundle.merge, folded]
    · dsimp only at processed
      by_cases fires : bench.stage.trigger.onElement.2 = true
      · rw [if_pos fires] at processed ⊢
        rw [processed] at succeeds ⊢
        obtain ⟨last, outputs, flushed, told, emits⟩ := exists_flush_of_ok succeeds
        refine ⟨last, outputs, emits (isEmpty_withMerged _ _ _), flushed, ?_⟩
        rw [elementEntries, folded]
        simp only [if_pos fires, told]
      · rw [if_neg fires] at processed ⊢
        rw [processed]
        refine ⟨rfl, ?_⟩
        rw [elementEntries, folded]
        simp only [if_neg fires]

namespace Life

/-- A request makes of a life what its journal tells. -/
theorem ask_eq
    (combiner : Combiner φ κ ν ι ο)
    (life : Life φ κ ν ι ο)
    (buffer : List ο)
    (request : Request ι) :
    life.ask combiner (buffer, request) =
      let bench := { life.bench with output := buffer }
      let told := requestEntries combiner bench request
      ⟨(Bench.serve combiner bench request).state,
        life.delivered ++ told.flatMap Entry.outputs, life.journal ++ told⟩ := by
  have pushed := (moves_serve combiner { life.bench with output := buffer } request).output_eq
  rw [ask, Life.call]
  dsimp only [perform, Bench.entries]
  rw [pushed, List.drop_left]

theorem ask_record
    (combiner : Combiner φ κ ν ι ο)
    (life : Life φ κ ν ι ο)
    (buffer : List ο)
    (arrival : Arrival ι) :
    life.ask combiner (buffer, .batch [arrival]) =
      let bench := { life.bench with output := buffer }
      let told := elementEntries combiner arrival bench
      ⟨(processElement combiner arrival.now arrival.record bench).state,
        life.delivered ++ told.flatMap Entry.outputs, life.journal ++ told⟩ := by
  let bench := { life.bench with output := buffer }
  have told : batchEntries combiner [arrival] bench = elementEntries combiner arrival bench := by
    rw [batchEntries]
    split <;> exact List.append_nil _
  have served : (processBatch combiner [(arrival.now, arrival.record)] bench).state =
      (processElement combiner arrival.now arrival.record bench).state := by
    rw [processBatch]
    split <;> rfl
  rw [ask_eq]
  simp only [Bench.serve, requestEntries, List.map_cons, List.map_nil]
  exact congrArg₂ (fun state told =>
    (⟨state, life.delivered ++ told.flatMap Entry.outputs, life.journal ++ told⟩ :
      Life φ κ ν ι ο)) served told

/-- A flush keeps pace whatever was counted before. -/
theorem keepsPace_flushed
    {flushesBefore : Nat}
    {stage : Stage κ ν}
    {journal : List (Entry φ κ ν ι ο)}
    (maxCount_pos : 0 < stage.trigger.maxCount)
    (flushCount_eq : stage.flushCount = flushesBefore + (flushes journal).length)
    {now : Instant}
    {size : Nat}
    {bench : Bench φ κ ν ο}
    (flushed : bench.stage = stage.flushed now size)
    (recalled : Recall φ)
    (bundle : Bundle κ ν)
    (delivered outputs : List ο) :
    KeepsPace combiner flushesBefore
      ⟨bench, delivered, journal ++ [.flushed recalled now bundle outputs]⟩ where
  count_eq := by
    rw [unflushed_concat, flushed]
    rfl
  bundle_eq := by
    rw [unflushed_concat, flushed]
    rfl
  entries_eq_nil_iff := by
    rw [flushed]
    exact iff_of_true rfl rfl
  maxCount_pos := by
    rw [flushed]
    exact maxCount_pos
  flushCount_eq := by
    rw [flushes_concat, List.length_append, ← Nat.add_assoc, ← flushCount_eq, flushed]
    rfl

section Records

variable {flushesBefore : Nat} {life : Life φ κ ν ι ο} {buffer : List ο} {arrival : Arrival ι}

/-- The count tells whether a flush is due. -/
theorem KeepsPace.isDue_iff (keepsPace : life.KeepsPace combiner flushesBefore) :
    life.IsDue ↔ life.bench.stage.trigger.maxCount ≤ life.bench.stage.trigger.count + 1 := by
  rw [IsDue, keepsPace.count_eq]

/-- A record behind which a flush is due keeps pace, and is flushed with all others. -/
theorem KeepsPace.record_of_isDue
    (keepsPace : life.KeepsPace combiner flushesBefore)
    (succeeds : (processElement combiner arrival.now arrival.record
      { life.bench with output := buffer }).result = .ok ())
    (due : life.IsDue) :
    (life.ask combiner (buffer, .batch [arrival])).KeepsPace combiner flushesBefore ∧
      life.Takes combiner arrival (life.ask combiner (buffer, .batch [arrival])) := by
  obtain ⟨memory, merged, bundle_eq, done⟩ := processElement_of_ok succeeds
  rw [keepsPace.bundle_eq, ← Combiner.bundled_concat] at bundle_eq
  have counted : life.bench.stage.trigger.onElement = (life.bench.stage.trigger.reset, true) :=
    if_pos (keepsPace.isDue_iff.mp due)
  rw [counted, if_pos rfl, bundle_eq] at done
  obtain ⟨last, outputs, emits, flushed, told⟩ := done
  rw [ask_record]
  dsimp only
  rw [told]
  refine ⟨?_, ?_⟩
  · rw [List.append_cons life.journal]
    refine keepsPace_flushed ?_ ?_ flushed _ _ _ _
    · rw [Stage.withMerged, counted]
      exact keepsPace.maxCount_pos
    · rw [flushes_concat]
      exact keepsPace.flushCount_eq.trans (congrArg _ (congrArg _ (List.append_nil _).symm))
  · exact
      { journal_eq := by
          refine ⟨memory, ?_⟩
          rw [if_pos due]
          exact ⟨last, outputs, emits, rfl, by simp [Entry.outputs]⟩
        flushCount_eq := by
          rw [if_pos due, flushed]
          rfl
        maxCount_eq := by
          rw [flushed]
          exact Trigger.maxCount_onElement _
        count_lt := by
          rw [flushed]
          simp only [Stage.flushed, Stage.withMerged, counted]
          exact keepsPace.maxCount_pos }

/-- A record behind which no flush is due keeps pace, and is counted. -/
theorem KeepsPace.record_of_not_isDue
    (keepsPace : life.KeepsPace combiner flushesBefore)
    (succeeds : (processElement combiner arrival.now arrival.record
      { life.bench with output := buffer }).result = .ok ())
    (early : ¬life.IsDue) :
    (life.ask combiner (buffer, .batch [arrival])).KeepsPace combiner flushesBefore ∧
      life.Takes combiner arrival (life.ask combiner (buffer, .batch [arrival])) := by
  obtain ⟨memory, merged, bundle_eq, done⟩ := processElement_of_ok succeeds
  rw [keepsPace.bundle_eq, ← Combiner.bundled_concat] at bundle_eq
  have below := keepsPace.isDue_iff.not.mp early
  have counted : life.bench.stage.trigger.onElement =
      ({ life.bench.stage.trigger with count := life.bench.stage.trigger.count + 1 }, false) :=
    if_neg below
  rw [counted, if_neg Bool.false_ne_true] at done
  obtain ⟨folded, told⟩ := done
  have occupied := isEmpty_withMerged life.bench.stage (combiner.key arrival.record) merged
  rw [ask_record]
  dsimp only
  rw [told]
  refine ⟨?_, ?_⟩
  · exact
      { count_eq := by
          rw [unflushed_concat, extend, List.length_append, ← keepsPace.count_eq, folded,
            Stage.withMerged, counted]
          rfl
        bundle_eq := by rw [unflushed_concat, extend, folded, bundle_eq]
        entries_eq_nil_iff := by
          rw [folded]
          refine iff_of_false (fun nothing => ?_) ?_
          · rw [Bundle.isEmpty, nothing] at occupied
            cases occupied
          · rw [Stage.withMerged, counted]
            exact Nat.succ_ne_zero _
        maxCount_pos := by
          rw [folded, Stage.withMerged, counted]
          exact keepsPace.maxCount_pos
        flushCount_eq := by
          rw [flushes_concat, folded]
          exact keepsPace.flushCount_eq.trans (congrArg _ (congrArg _ (List.append_nil _).symm)) }
  · exact
      { journal_eq := by
          refine ⟨memory, ?_⟩
          rw [if_neg early]
          exact ⟨rfl, List.append_nil _⟩
        flushCount_eq := by
          rw [if_neg early, folded]
          rfl
        maxCount_eq := by
          rw [folded]
          exact Trigger.maxCount_onElement _
        count_lt := by
          rw [folded]
          simp only [Stage.withMerged, counted]
          exact Nat.lt_of_not_le below }

/-- A record keeps pace, and is followed by a flush if one is due. -/
theorem KeepsPace.record
    (keepsPace : life.KeepsPace combiner flushesBefore)
    (succeeds : (processElement combiner arrival.now arrival.record
      { life.bench with output := buffer }).result = .ok ()) :
    (life.ask combiner (buffer, .batch [arrival])).KeepsPace combiner flushesBefore ∧
      life.Takes combiner arrival (life.ask combiner (buffer, .batch [arrival])) := by
  by_cases due : life.IsDue
  · exact keepsPace.record_of_isDue succeeds due
  · exact keepsPace.record_of_not_isDue succeeds due

end Records

/-! ## Batches -/

/-- The life before the next request, whose buffer it is handed. -/
def handed
    (life : Life φ κ ν ι ο)
    (buffer : List ο) : Life φ κ ν ι ο :=
  { life with bench := { life.bench with output := buffer } }

theorem ask_nil
    (life : Life φ κ ν ι ο)
    (buffer : List ο) :
    life.ask combiner (buffer, .batch []) = life.handed buffer := by
  rw [ask_eq]
  simp only [Bench.serve, requestEntries, batchEntries, processBatch, List.map_nil,
    List.flatMap_nil, List.append_nil]
  rfl

end Life

theorem result_serve_batch_cons_eq_ok_iff
    {arrival : Arrival ι}
    {rest : List (Arrival ι)}
    {bench : Bench φ κ ν ο} :
    (serve combiner bench (.batch (arrival :: rest))).result = .ok () ↔
      (processElement combiner arrival.now arrival.record bench).result = .ok () ∧
        (serve combiner (processElement combiner arrival.now arrival.record bench).state
          (.batch rest)).result = .ok () := by
  cases handled : (processElement combiner arrival.now arrival.record bench).result with
  | ok done => rw [serve_batch_cons_of_ok handled, and_iff_right rfl]
  | error cause =>
      rw [serve_batch_cons_of_error handled, handled]
      exact ⟨fun equal => (by cases equal), fun both => both.1⟩

theorem result_serve_batch_append_eq_ok_iff
    {first second : List (Arrival ι)}
    {bench : Bench φ κ ν ο} :
    (serve combiner bench (.batch (first ++ second))).result = .ok () ↔
      (serve combiner bench (.batch first)).result = .ok () ∧
        (serve combiner (serve combiner bench (.batch first)).state
          (.batch second)).result = .ok () := by
  induction first generalizing bench with
  | nil => exact (and_iff_right rfl).symm
  | cons arrival rest inductionHypothesis =>
      rw [List.cons_append, result_serve_batch_cons_eq_ok_iff, inductionHypothesis,
        result_serve_batch_cons_eq_ok_iff, and_assoc]
      refine and_congr_right fun handled => ?_
      rw [serve_batch_cons_of_ok handled]

/-- A batch in two parts is two batches, if the first part succeeds. -/
theorem serve_batch_append
    {first : List (Arrival ι)}
    {bench : Bench φ κ ν ο}
    (succeeds : (serve combiner bench (.batch first)).result = .ok ())
    (second : List (Arrival ι)) :
    serve combiner bench (.batch (first ++ second)) =
      serve combiner (serve combiner bench (.batch first)).state (.batch second) := by
  refine (congrArg (processBatch combiner · bench) List.map_append).trans ?_
  exact processBatch_append_of_ok (congrArg (Attempt.mk _) succeeds) _

theorem batchEntries_append
    {first : List (Arrival ι)}
    {bench : Bench φ κ ν ο}
    (succeeds : (serve combiner bench (.batch first)).result = .ok ())
    (second : List (Arrival ι)) :
    batchEntries combiner (first ++ second) bench =
      batchEntries combiner first bench ++
        batchEntries combiner second (serve combiner bench (.batch first)).state := by
  induction first generalizing bench with
  | nil => rfl
  | cons arrival rest inductionHypothesis =>
      obtain ⟨handled, others⟩ := result_serve_batch_cons_eq_ok_iff.mp succeeds
      rw [List.cons_append, batchEntries, batchEntries, serve_batch_cons_of_ok handled, handled]
      simp only
      rw [inductionHypothesis others, List.append_assoc]

namespace Life

/-- It makes no difference whether a batch comes in two parts, the second with the buffer that
the first has left. -/
theorem ask_batch_append
    {life : Life φ κ ν ι ο}
    {buffer : List ο}
    {first : List (Arrival ι)}
    (succeeds :
      (Bench.serve combiner { life.bench with output := buffer } (.batch first)).result = .ok ())
    (second : List (Arrival ι)) :
    life.ask combiner (buffer, .batch (first ++ second)) =
      let reached := life.ask combiner (buffer, .batch first)
      reached.ask combiner (reached.bench.output, .batch second) := by
  simp only [ask_eq, requestEntries]
  rw [serve_batch_append succeeds, batchEntries_append succeeds, List.flatMap_append,
    List.append_assoc, List.append_assoc]

/-- What one record after another preserves holds behind a batch that succeeds. -/
theorem batch_induction
    {motive : Life φ κ ν ι ο → List ι → Prop}
    (handed : ∀ life taken buffer, motive life taken → motive (life.handed buffer) taken)
    (step : ∀ life taken buffer arrival, motive life taken →
      (processElement combiner arrival.now arrival.record
        { life.bench with output := buffer }).result = .ok () →
      motive (life.ask combiner (buffer, .batch [arrival])) (taken ++ [arrival.record]))
    {arrivals : List (Arrival ι)}
    {life : Life φ κ ν ι ο}
    {buffer : List ο}
    (taken : List ι)
    (holds : motive life taken)
    (succeeds : (Bench.serve combiner { life.bench with output := buffer }
      (.batch arrivals)).result = .ok ()) :
    motive (life.ask combiner (buffer, .batch arrivals))
      (taken ++ arrivals.map Arrival.record) := by
  induction arrivals generalizing life buffer taken with
  | nil =>
      rw [ask_nil, List.map_nil, List.append_nil]
      exact handed life taken buffer holds
  | cons arrival rest inductionHypothesis =>
      obtain ⟨first, others⟩ := result_serve_batch_cons_eq_ok_iff.mp succeeds
      have alone : (Bench.serve combiner { life.bench with output := buffer }
          (.batch [arrival])).result = .ok () :=
        result_serve_batch_cons_eq_ok_iff.mpr ⟨first, rfl⟩
      have next := step life taken buffer arrival holds first
      rw [← List.singleton_append, ask_batch_append alone, List.map_append, List.map_singleton,
        ← List.append_assoc]
      refine inductionHypothesis _ next ?_
      rw [ask_record]
      exact others

/-! ## Runs -/

theorem keepsPace_flush
    {flushesBefore : Nat}
    {now : Instant}
    {bench : Bench φ κ ν ο}
    {journal : List (Entry φ κ ν ι ο)}
    (succeeds : (flush combiner now bench).result = .ok ())
    (maxCount_pos : 0 < bench.stage.trigger.maxCount)
    (flushCount_eq : bench.stage.flushCount = flushesBefore + (flushes journal).length)
    (delivered : List ο) :
    KeepsPace combiner flushesBefore
      ⟨(flush combiner now bench).state, delivered,
        journal ++ flushEntries combiner now bench⟩ := by
  obtain ⟨last, outputs, flushed, told, -⟩ := exists_flush_of_ok succeeds
  rw [told]
  exact keepsPace_flushed maxCount_pos flushCount_eq flushed _ _ _ _

theorem KeepsPace.handed
    {flushesBefore : Nat}
    {life : Life φ κ ν ι ο}
    (keepsPace : life.KeepsPace combiner flushesBefore)
    (buffer : List ο) :
    (life.handed buffer).KeepsPace combiner flushesBefore :=
  { keepsPace with }

/-- The trigger that starts over because its time has come keeps pace behind the flush. -/
theorem KeepsPace.timed
    {flushesBefore : Nat}
    {life : Life φ κ ν ι ο}
    (keepsPace : life.KeepsPace combiner flushesBefore)
    {now : Instant}
    {bench : Bench φ κ ν ο}
    (succeeds : (timeTrigger combiner now bench).result = .ok ())
    (same : bench.stage = life.bench.stage)
    (delivered : List ο) :
    KeepsPace combiner flushesBefore
      ⟨(timeTrigger combiner now bench).state, delivered,
        life.journal ++ flushEntries combiner now bench.restarted⟩ := by
  have maxCount_pos := keepsPace.maxCount_pos
  have flushCount_eq := keepsPace.flushCount_eq
  rw [← same] at maxCount_pos flushCount_eq
  change (flush combiner now bench.restarted).result = .ok () at succeeds
  exact keepsPace_flush succeeds maxCount_pos flushCount_eq delivered

theorem KeepsPace.change
    {flushesBefore : Nat}
    {life : Life φ κ ν ι ο}
    (keepsPace : life.KeepsPace combiner flushesBefore)
    (buffer : List ο)
    (change : Stage.Change) :
    (life.ask combiner (buffer, .change change)).KeepsPace combiner flushesBefore := by
  obtain ⟨maxCount, controller, adjustments, changed⟩ := change.exists_apply_eq life.bench.stage
  have positive := change.maxCount_apply_pos keepsPace.maxCount_pos
  have told : unflushed (life.journal ++
        (change.reported? life.bench.stage).toList.map .adjusted) = unflushed life.journal ∧
      flushes (life.journal ++
        (change.reported? life.bench.stage).toList.map .adjusted) = flushes life.journal := by
    cases change.reported? life.bench.stage with
    | none => exact ⟨congrArg _ (List.append_nil _), congrArg _ (List.append_nil _)⟩
    | some kind => exact ⟨unflushed_concat _ _, (flushes_concat _ _).trans (List.append_nil _)⟩
  rw [ask_eq]
  dsimp only [Bench.serve, requestEntries]
  rw [changed] at positive ⊢
  exact
    { count_eq := told.1.symm ▸ keepsPace.count_eq
      bundle_eq := told.1.symm ▸ keepsPace.bundle_eq
      entries_eq_nil_iff := keepsPace.entries_eq_nil_iff
      maxCount_pos := positive
      flushCount_eq := told.2.symm ▸ keepsPace.flushCount_eq }

/-- A request that succeeds keeps pace. -/
theorem KeepsPace.ask
    {flushesBefore : Nat}
    {life : Life φ κ ν ι ο}
    (keepsPace : life.KeepsPace combiner flushesBefore)
    {buffer : List ο}
    {request : Request ι}
    (succeeds :
      (Bench.serve combiner { life.bench with output := buffer } request).result = .ok ()) :
    (life.ask combiner (buffer, request)).KeepsPace combiner flushesBefore := by
  cases request with
  | batch arrivals =>
      exact batch_induction (motive := fun life _ => life.KeepsPace combiner flushesBefore)
        (fun _ _ buffer keepsPace => keepsPace.handed buffer)
        (fun _ _ _ _ keepsPace succeeds => (keepsPace.record succeeds).1) [] keepsPace succeeds
  | flush now =>
      rw [ask_eq]
      exact keepsPace_flush succeeds keepsPace.maxCount_pos keepsPace.flushCount_eq _
  | timeTrigger now =>
      rw [ask_eq]
      exact keepsPace.timed succeeds rfl _
  | tick asked now =>
      rw [ask_eq]
      dsimp only [Bench.serve, requestEntries] at succeeds ⊢
      rw [onProcessingTime_eq] at succeeds ⊢
      split at succeeds
      · rename_i due
        rw [if_pos due, if_pos due]
        exact keepsPace.timed succeeds rfl _
      · rename_i early
        rw [if_neg early, if_neg early]
        rw [List.append_nil]
        exact { keepsPace with }
  | finish now =>
      rw [ask_eq]
      dsimp only [Bench.serve, requestEntries] at succeeds ⊢
      rw [onEnd] at succeeds ⊢
      split at succeeds
      · rename_i nothing
        rw [if_pos nothing, if_pos nothing]
        rw [List.append_nil]
        exact { keepsPace with }
      · rename_i occupied
        rw [if_neg occupied, if_neg occupied]
        exact keepsPace_flush succeeds keepsPace.maxCount_pos keepsPace.flushCount_eq _
  | change change => exact keepsPace.change buffer change

/-- Every request succeeds. -/
def Succeeds
    (combiner : Combiner φ κ ν ι ο)
    (life : Life φ κ ν ι ο) : List (List ο × Request ι) → Prop
  | [] => True
  | asked :: rest =>
      (Bench.serve combiner { life.bench with output := asked.1 } asked.2).result = .ok () ∧
        Succeeds combiner (life.ask combiner asked) rest

instance Succeeds.decidable
    (combiner : Combiner φ κ ν ι ο) :
    (life : Life φ κ ν ι ο) → (requests : List (List ο × Request ι)) →
      Decidable (life.Succeeds combiner requests)
  | _, [] => .isTrue trivial
  | life, asked :: rest =>
      have := Succeeds.decidable combiner (life.ask combiner asked) rest
      inferInstanceAs (Decidable (_ ∧ _))

theorem succeeds_append
    {memory : φ}
    {opened : Stage κ ν}
    {earlier later : List (List ο × Request ι)} :
    (serve combiner memory opened []).Succeeds combiner (earlier ++ later) ↔
      (serve combiner memory opened []).Succeeds combiner earlier ∧
        (serve combiner memory opened earlier).Succeeds combiner later := by
  have served : serve combiner memory opened earlier =
      earlier.foldl (ask combiner) (serve combiner memory opened []) := by
    rw [serve, run, List.foldl_map]
    rfl
  rw [served]
  clear served
  generalize serve combiner memory opened [] = life
  induction earlier generalizing life with
  | nil => exact (and_iff_right trivial).symm
  | cons asked rest inductionHypothesis =>
      exact (and_congr_right' (inductionHypothesis _)).trans and_assoc.symm

/-- Requests that succeed keep pace. -/
theorem KeepsPace.serve
    {flushesBefore : Nat}
    {memory : φ}
    {opened : Stage κ ν}
    (keepsPace : (Life.serve combiner memory opened []).KeepsPace combiner flushesBefore)
    {requests : List (List ο × Request ι)}
    (succeeds : (Life.serve combiner memory opened []).Succeeds combiner requests) :
    (Life.serve combiner memory opened requests).KeepsPace combiner flushesBefore := by
  induction requests using List.reverseRecOn with
  | nil => exact keepsPace
  | append_singleton requests asked inductionHypothesis =>
      obtain ⟨before, last, -⟩ := succeeds_append.mp succeeds
      rw [serve_concat]
      exact (inductionHypothesis before).ask last

end Life

end Bench
end PreAggregation
