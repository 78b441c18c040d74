import PreAggregation.Proofs.Stage.Failures
import PreAggregation.Proofs.Stage.Heritage
import PreAggregation.Proofs.Stage.Journal

/-!
# How long records wait

The clock of an open stage only goes forward.  What is in the bundle was folded after the
last flush, because only flushes that succeed, openings and closings set the clock of the
time threshold, and each of them leaves an empty bundle behind.  So the time threshold
bounds how long records wait, whatever fails before: a tick that succeeds leaves no record
that has waited longer.
-/

namespace PreAggregation

namespace Entry

variable {φ κ ν ι ο : Type}

/-- What the clock shows, for an entry that tells it. -/
def instant? : Entry φ κ ν ι ο → Option Instant
  | .opened now => some now
  | .folded fold => some fold.arrived
  | .flushed _ now _ _ => some now
  | .refused .. | .withheld _ | .adjusted _ | .closed => none

/-- What the clock shows in a journal. -/
def instants (journal : List (Entry φ κ ν ι ο)) : List Instant :=
  journal.filterMap instant?

theorem instants_append
    (earlier later : List (Entry φ κ ν ι ο)) :
    instants (earlier ++ later) = instants earlier ++ instants later :=
  List.filterMap_append

variable [DecidableEq κ] (keyOf : ι → κ)

/-- The records of a bundle, with their arrivals, after one entry more. -/
def keep (records : List (Instant × ι)) : Entry φ κ ν ι ο → List (Instant × ι)
  | .folded fold => records ++ [(fold.arrived, fold.record)]
  | .refused _ record => records.filter fun other => keyOf other.2 ≠ keyOf record
  | .opened _ | .flushed .. | .closed => []
  | .withheld _ | .adjusted _ => records

/-- The records of the bundle that a journal leaves, with their arrivals. -/
def held (journal : List (Entry φ κ ν ι ο)) : List (Instant × ι) :=
  journal.foldl (keep keyOf) []

/-- The records of a key. -/
def ofKey (key : κ) (records : List (Instant × ι)) : List ι :=
  (records.filter fun other => keyOf other.2 = key).map Prod.snd

variable {keyOf}

theorem held_concat
    (journal : List (Entry φ κ ν ι ο))
    (entry : Entry φ κ ν ι ο) :
    held keyOf (journal ++ [entry]) = entry.keep keyOf (held keyOf journal) := by
  rw [held, List.foldl_append]
  rfl

/-- Adjustments do not touch the records. -/
theorem held_append_adjusted
    (journal : List (Entry φ κ ν ι ο))
    (kind? : Option OutcomeKind) :
    held keyOf (journal ++ kind?.toList.map adjusted) = held keyOf journal := by
  cases kind? with
  | none => exact congrArg _ (List.append_nil journal)
  | some kind => exact held_concat journal (adjusted kind)

theorem ofKey_concat
    (key : κ)
    (records : List (Instant × ι))
    (arrived : Instant)
    (record : ι) :
    ofKey keyOf key (records ++ [(arrived, record)]) =
      ofKey keyOf key records ++ if keyOf record = key then [record] else [] := by
  rw [ofKey, List.filter_append, List.map_append]
  refine congrArg (ofKey keyOf key records ++ ·) ?_
  split
  · rename_i same
    rw [List.filter_cons_of_pos (by simpa using same)]
    rfl
  · rename_i different
    rw [List.filter_cons_of_neg (by simpa using different)]
    rfl

theorem ofKey_filter_ne
    (key other : κ)
    (records : List (Instant × ι)) :
    ofKey keyOf key (records.filter fun record => keyOf record.2 ≠ other) =
      if other = key then [] else ofKey keyOf key records := by
  rw [ofKey, List.filter_filter]
  split
  · rename_i same
    subst same
    simp
  · rename_i different
    refine congrArg (List.map Prod.snd) (List.filter_congr fun record _ => ?_)
    by_cases same : keyOf record.2 = key
    · simp [same, Ne.symm different]
    · simp [same]

end Entry

namespace Stage

variable {κ ν : Type}

theorem lastFlush_start
    (stage : Stage κ ν)
    (now : Instant)
    (subtask : Subtask)
    (broker : MemoryBroker) :
    (stage.start now subtask broker).1.lastFlush = now := by
  obtain ⟨listening, started⟩ := stage.exists_start_eq now subtask broker
  rw [started]
  rfl

theorem Change.lastFlush_apply
    (change : Change)
    (stage : Stage κ ν) :
    (change.apply stage).lastFlush = stage.lastFlush := by
  obtain ⟨maxCount, controller, adjustments, changed⟩ := change.exists_apply_eq stage
  rw [changed]
  rfl

end Stage

/-- A partial comes of folding some records one after another, whatever else the function does
in between. -/
inductive Combiner.Yields {φ κ ν ι ο : Type} (combiner : Combiner φ κ ν ι ο) :
    List ι → Option ν → Prop
  | nothing : Yields combiner [] none
  | folded {records : List ι} {current : Option ν} {memory next : φ} {merged : ν} {record : ι} :
      Yields combiner records current →
      combiner.addInput memory current record = (next, .ok merged) →
      Yields combiner (records ++ [record]) (some merged)

namespace Bench

open Entry

variable {φ κ ν ι ο : Type} [DecidableEq κ] {combiner : Combiner φ κ ν ι ο}
variable {bench next : Bench φ κ ν ο} {journal entries : List (Entry φ κ ν ι ο)}

/-! ## What a move keeps -/

theorem Move.inherits (move : Move combiner bench entries next) :
    bench.stage.Inherits next.stage := by
  cases move with
  | folded arrived addition => exact (bench.stage.remains_withMerged _ _).toInherits
  | refused failure => exact ⟨rfl, rfl, rfl, rfl, id⟩
  | idle now nothing => exact ⟨rfl, rfl, rfl, rfl, id⟩
  | flushed now occupied collected => exact ⟨rfl, rfl, rfl, rfl, id⟩
  | withheld occupied failed => exact Stage.Inherits.refl bench.stage
  | overdue occupied failed => exact ⟨rfl, rfl, rfl, rfl, id⟩
  | changed change => exact (Stage.remains_change change bench.stage).toInherits

/-- The partial of every key is made of the records that are held under it. -/
def Holds
    (combiner : Combiner φ κ ν ι ο)
    (journal : List (Entry φ κ ν ι ο))
    (stage : Stage κ ν) : Prop :=
  ∀ key, combiner.Yields (ofKey combiner.key key (held combiner.key journal))
    (stage.bundle.get? key)

theorem holds_empty
    {journal : List (Entry φ κ ν ι ο)}
    {stage : Stage κ ν}
    (nothing : held combiner.key journal = [])
    (empty : stage.bundle = .empty) :
    Holds combiner journal stage := by
  intro key
  rw [nothing, empty]
  exact .nothing

theorem Move.holds
    (move : Move combiner bench entries next)
    (holds : Holds combiner journal bench.stage) :
    Holds combiner (journal ++ entries) next.stage := by
  cases move with
  | folded arrived addition =>
      rename_i memory merged record
      intro key
      rw [held_concat, keep, ofKey_concat]
      dsimp only [Stage.withMerged, Bundle.get?]
      rw [Bundle.lookup_assign]
      split
      · rename_i same
        subst same
        exact .folded (holds _) addition
      · rw [List.append_nil]
        exact holds key
  | refused failure =>
      intro key
      rw [held_concat, keep, ofKey_filter_ne]
      dsimp only [Stage.withoutKey, Bundle.get?]
      rw [Bundle.lookup_remove]
      split
      · exact .nothing
      · exact holds key
  | idle now nothing => exact holds_empty (held_concat journal _) rfl
  | flushed now occupied collected => exact holds_empty (held_concat journal _) rfl
  | withheld occupied failed | overdue occupied failed =>
      intro key
      rw [held_concat]
      exact holds key
  | changed change =>
      intro key
      rw [held_append_adjusted, Stage.Change.bundle_apply]
      exact holds key

theorem holds_start
    (journal : List (Entry φ κ ν ι ο))
    (stage : Stage κ ν)
    (now : Instant)
    (subtask : Subtask)
    (broker : MemoryBroker) :
    Holds combiner (journal ++ [.opened now]) (stage.start now subtask broker).1 :=
  holds_empty (held_concat journal _) (stage.bundle_start now subtask broker)

theorem holds_stop
    (journal : List (Entry φ κ ν ι ο))
    (stage : Stage κ ν)
    (broker : MemoryBroker) :
    Holds combiner (journal ++ [.closed]) (stage.stop broker).1 := by
  rw [Stage.fst_stop]
  exact holds_empty (held_concat journal _) rfl

/-- The last flush, or the opening before it, was not behind any record that is held. -/
structure Recent
    (keyOf : ι → κ)
    (opened : Instant)
    (journal : List (Entry φ κ ν ι ο))
    (stage : Stage κ ν) : Prop where
  /-- The last flush is in the journal, or was the first opening. -/
  member : stage.lastFlush ∈ opened :: instants journal
  /-- What is held came later. -/
  le_arrived : ∀ record ∈ held keyOf journal, stage.lastFlush ≤ record.1

/-- Where nothing is held, the last flush may have been at the end of the journal. -/
theorem recent_concat
    {keyOf : ι → κ}
    {opened now : Instant}
    {entry : Entry φ κ ν ι ο}
    {stage : Stage κ ν}
    (shown : entry.instant? = some now)
    (nothing : entry.keep keyOf (held keyOf journal) = [])
    (flushed : stage.lastFlush = now) :
    Recent keyOf opened (journal ++ [entry]) stage where
  member := by
    rw [instants_append, instants, instants, List.filterMap_cons_some shown, flushed]
    exact List.mem_cons_of_mem _ (List.mem_append_right _ List.mem_cons_self)
  le_arrived := by
    rw [held_concat, nothing]
    exact fun _ absent => absurd absent List.not_mem_nil

/-- Moves that do not flush keep what is recent, if they hold no other records. -/
theorem Recent.kept
    {keyOf : ι → κ}
    {opened : Instant}
    {stage later : Stage κ ν}
    (recent : Recent keyOf opened journal stage)
    (lastFlush_eq : later.lastFlush = stage.lastFlush)
    (fewer : held keyOf (journal ++ entries) ⊆ held keyOf journal) :
    Recent keyOf opened (journal ++ entries) later where
  member := by
    rw [lastFlush_eq, instants_append, ← List.cons_append]
    exact List.mem_append_left _ recent.member
  le_arrived record member := by
    rw [lastFlush_eq]
    exact recent.le_arrived record (fewer member)

theorem Move.recent
    {opened : Instant}
    (move : Move combiner bench entries next)
    (recent : (opened :: instants journal).Pairwise (· ≤ ·) →
      Recent combiner.key opened journal bench.stage)
    (forward : (opened :: instants (journal ++ entries)).Pairwise (· ≤ ·)) :
    Recent combiner.key opened (journal ++ entries) next.stage := by
  rw [instants_append, ← List.cons_append] at forward
  obtain ⟨forwardBefore, -, forwardAcross⟩ := List.pairwise_append.mp forward
  have before := recent forwardBefore
  cases move with
  | folded arrived addition =>
      rename_i memory merged record
      refine ⟨?_, fun other member => ?_⟩
      · rw [instants_append, ← List.cons_append]
        exact List.mem_append_left _ before.member
      · rw [held_concat] at member
        rcases List.mem_append.mp member with earlier | latest
        · exact before.le_arrived other earlier
        · -- The record arrives behind everything that the journal tells.
          rw [List.mem_singleton.mp latest]
          exact forwardAcross _ before.member arrived List.mem_cons_self
  | refused failure =>
      refine before.kept rfl ?_
      rw [held_concat]
      exact List.filter_subset_self _
  | idle now nothing => exact recent_concat rfl rfl rfl
  | flushed now occupied collected => exact recent_concat rfl rfl rfl
  | withheld occupied failed | overdue occupied failed =>
      refine before.kept rfl ?_
      rw [held_concat]
      exact List.Subset.refl _
  | changed change =>
      refine before.kept (change.lastFlush_apply bench.stage) ?_
      rw [held_append_adjusted]
      exact List.Subset.refl _

theorem Recent.stop
    {keyOf : ι → κ}
    {opened : Instant}
    {stage : Stage κ ν}
    (recent : Recent keyOf opened journal stage)
    (broker : MemoryBroker) :
    Recent keyOf opened (journal ++ [.closed]) (stage.stop broker).1 := by
  rw [Stage.fst_stop]
  refine recent.kept rfl ?_
  rw [held_concat]
  exact List.nil_subset _

/-! ## The clock of a call -/

/-- What the clock shows while a request is served, in this order. -/
def Request.readings : Request ι → List Instant
  | .batch arrivals => arrivals.flatMap fun arrival => [arrival.arrived, arrival.now]
  | .flush now => [now]
  | .timeTrigger now => [now]
  | .tick asked now => [asked, now]
  | .finish now => [now]
  | .change _ => []

/-- What the clock shows during a call, in this order. -/
def Call.readings : Call ι → List Instant
  | .start now _ _ => [now]
  | .ask request => request.readings
  | .stop _ => []

/-- What the clock shows during some calls. -/
def readings (calls : List (List ο × Call ι)) : List Instant :=
  calls.flatMap fun call => call.2.readings

omit [DecidableEq κ] in
theorem instants_flushEntries
    (combiner : Combiner φ κ ν ι ο)
    (now : Instant)
    (bench : Bench φ κ ν ο) :
    (instants (flushEntries combiner now bench)).Sublist [now] := by
  rw [flushEntries]
  cases (flush combiner now bench).result with
  | ok done => exact List.Sublist.refl _
  | error cause => exact List.nil_sublist _

theorem instants_elementEntries
    (combiner : Combiner φ κ ν ι ο)
    (arrival : Arrival ι)
    (bench : Bench φ κ ν ο) :
    (instants (elementEntries combiner arrival bench)).Sublist [arrival.arrived, arrival.now] := by
  rw [elementEntries]
  split
  · exact List.nil_sublist _
  · rw [instants, List.filterMap_cons, instant?]
    refine List.Sublist.cons_cons _ ?_
    split
    · exact instants_flushEntries combiner arrival.now _
    · exact List.nil_sublist _

theorem instants_batchEntries
    (combiner : Combiner φ κ ν ι ο)
    (arrivals : List (Arrival ι))
    (bench : Bench φ κ ν ο) :
    (instants (batchEntries combiner arrivals bench)).Sublist
      (arrivals.flatMap fun arrival => [arrival.arrived, arrival.now]) := by
  induction arrivals generalizing bench with
  | nil => exact List.Sublist.refl _
  | cons arrival rest inductionHypothesis =>
      rw [batchEntries, instants_append, List.flatMap_cons]
      refine (instants_elementEntries combiner arrival bench).append ?_
      split
      · exact inductionHypothesis _
      · exact List.nil_sublist _

theorem instants_requestEntries
    (combiner : Combiner φ κ ν ι ο)
    (bench : Bench φ κ ν ο)
    (request : Request ι) :
    (instants (requestEntries combiner bench request)).Sublist request.readings := by
  cases request with
  | batch arrivals => exact instants_batchEntries combiner arrivals bench
  | flush now => exact instants_flushEntries combiner now bench
  | timeTrigger now => exact instants_flushEntries combiner now _
  | tick asked now =>
      rw [requestEntries]
      split
      · exact (instants_flushEntries combiner now _).cons asked
      · exact List.nil_sublist _
  | finish now =>
      rw [requestEntries]
      split
      · exact List.nil_sublist _
      · exact instants_flushEntries combiner now bench
  | change change =>
      rw [requestEntries]
      cases change.reported? bench.stage with
      | none => exact List.Sublist.refl _
      | some kind => exact List.Sublist.refl _

/-- A call tells of nothing but what the clock shows during it. -/
theorem instants_entries
    (combiner : Combiner φ κ ν ι ο)
    (bench : Bench φ κ ν ο)
    (call : Call ι) :
    (instants (Bench.entries combiner bench call)).Sublist call.readings := by
  cases call with
  | start now subtask broker => exact List.Sublist.refl _
  | ask request => exact instants_requestEntries combiner bench request
  | stop broker => exact List.Sublist.refl _

namespace Life

variable (combiner) (memory : φ) (stage : Stage κ ν) (calls : List (List ο × Call ι))

theorem instants_run :
    (instants (run combiner memory stage calls).journal).Sublist (readings calls) := by
  induction calls using List.reverseRecOn with
  | nil => exact List.Sublist.refl _
  | append_singleton calls call inductionHypothesis =>
      rw [run_concat, Life.call, instants_append, readings, List.flatMap_append,
        List.flatMap_singleton]
      exact inductionHypothesis.append (instants_entries combiner _ call.2)

theorem inherits_run : stage.Inherits (run combiner memory stage calls).bench.stage :=
  preserve (motive := fun _ _ later => stage.Inherits later)
    (fun move inherits => inherits.trans move.inherits)
    (fun now subtask broker inherits => inherits.trans (Stage.inherits_start _ now subtask broker))
    (fun broker inherits => inherits.trans (Stage.inherits_stop _ broker))
    (Stage.Inherits.refl stage) calls

end Life

/-! ## The bound -/

/-- While the clock goes forward, what an open stage holds came after its last flush. -/
theorem recent_run
    (combiner : Combiner φ κ ν ι ο)
    (earlier : Stage κ ν)
    (opened : Instant)
    (subtask : Subtask)
    (broker : MemoryBroker)
    (memory : φ)
    (calls : List (List ο × Call ι))
    (forward : (opened :: readings calls).Pairwise (· ≤ ·)) :
    let life := Life.run combiner memory (earlier.start opened subtask broker).1 calls
    Recent combiner.key opened life.journal life.bench.stage := by
  intro life
  have told : (opened :: instants life.journal).Pairwise (· ≤ ·) :=
    forward.sublist ((Life.instants_run combiner memory _ calls).cons_cons opened)
  refine Life.preserve
    (motive := fun journal _ stage => (opened :: instants journal).Pairwise (· ≤ ·) →
      Recent combiner.key opened journal stage)
    (fun move recent => move.recent recent) ?_ ?_ ?_ calls told
  · intro journal last stage now subtask broker _ _
    exact recent_concat rfl rfl (stage.lastFlush_start now subtask broker)
  · intro journal last stage broker recent forward
    rw [instants_append] at forward
    exact (recent (forward.sublist (List.sublist_append_left _ _))).stop broker
  · intro _
    have started := earlier.lastFlush_start opened subtask broker
    exact ⟨List.mem_cons.mpr (.inl started), fun _ absent => absurd absent List.not_mem_nil⟩

/-- A tick that succeeds finds that the time has not come, or leaves nothing. -/
theorem tick_cases
    {asked now : Instant}
    (succeeds : (onProcessingTime combiner asked now bench).result = .ok ()) :
    (bench.stage.isDue asked = false ∧
      onProcessingTime combiner asked now bench = { state := bench } ∧
      requestEntries combiner bench (.tick asked now) = []) ∨
    ((onProcessingTime combiner asked now bench).state.stage.bundle = .empty ∧
      ∃ recalled outputs, requestEntries combiner bench (.tick asked now) =
        [.flushed recalled now bench.stage.bundle outputs]) := by
  rw [onProcessingTime_eq] at succeeds ⊢
  cases due : bench.stage.isDue asked with
  | false =>
      refine .inl ⟨rfl, rfl, ?_⟩
      rw [requestEntries, due]
      rfl
  | true =>
      rw [due, if_pos rfl] at succeeds
      have flushes : (flush combiner now bench.restarted).result = .ok () := succeeds
      let reached := (flush combiner now bench.restarted).state
      refine .inr ⟨?_, ⟨bench.memory, reached.memory⟩, reached.output.drop bench.output.length, ?_⟩
      · rw [if_pos rfl]
        change (flush combiner now bench.restarted).state.stage.bundle = .empty
        rcases flush_cases combiner now bench.restarted with
          ⟨-, flushed⟩ | ⟨-, memory, output, -, flushed⟩ | ⟨-, memory, pushed, cause, -, flushed⟩
        · rw [flushed]
          rfl
        · rw [flushed]
          rfl
        · rw [flushed] at flushes
          cases flushes
      · rw [requestEntries, due, if_pos rfl, flushEntries, flushes]
        rfl

omit [DecidableEq κ] in
theorem lt_of_not_due
    {stage : Stage κ ν}
    {asked : Instant}
    {maxTime : Nat}
    (limited : stage.trigger.maxTime = some maxTime)
    (early : stage.isDue asked = false) :
    asked - stage.lastFlush < maxTime := by
  rw [Stage.isDue, limited, Option.any_some] at early
  exact Nat.lt_of_not_le (of_decide_eq_false early)

/-- While the clock goes forward, no record in the bundle arrived before the last flush.  A tick
that succeeds leaves no bundle, or one whose last flush is less than the time threshold ago; so no
record that arrived as long ago is left.  What is held are just the records that the partials are
made of.  Without a time threshold a tick does nothing. -/
theorem no_record_outwaits_maxTime
    (combiner : Combiner φ κ ν ι ο)
    (earlier : Stage κ ν)
    (opened : Instant)
    (subtask : Subtask)
    (broker : MemoryBroker)
    (memory : φ)
    (calls : List (List ο × Call ι))
    (forward : (opened :: readings calls).Pairwise (· ≤ ·)) :
    let life := Life.run combiner memory (earlier.start opened subtask broker).1 calls
    let records := held combiner.key life.journal
    (∀ key,
      combiner.Yields (ofKey combiner.key key records) (life.bench.stage.bundle.get? key)) ∧
    (∀ record ∈ records, life.bench.stage.lastFlush ≤ record.1) ∧
    (∀ maxTime output asked now,
      earlier.trigger.maxTime = some maxTime →
      (∀ reading ∈ opened :: readings calls, reading ≤ asked) →
      (onProcessingTime combiner asked now { life.bench with output }).result = .ok () →
      let last := life.ask combiner (output, .tick asked now)
      (last.bench.stage.bundle = .empty ∨
        last.bench.stage.lastFlush ≤ asked ∧
          asked - last.bench.stage.lastFlush < maxTime) ∧
      ∀ record ∈ held combiner.key last.journal, asked < record.1 + maxTime) ∧
    ∀ (bench : Bench φ κ ν ο) asked now, bench.stage.trigger.maxTime = none →
      onProcessingTime combiner asked now bench = { state := bench } := by
  intro life records
  have holds : Holds combiner life.journal life.bench.stage :=
    Life.preserve (motive := fun journal _ stage => Holds combiner journal stage)
      (fun move holds => move.holds holds)
      (fun now subtask broker _ => holds_start _ _ now subtask broker)
      (fun broker _ => holds_stop _ _ broker)
      (holds_empty rfl (earlier.bundle_start opened subtask broker)) calls
  have recent : Recent combiner.key opened life.journal life.bench.stage :=
    recent_run combiner earlier opened subtask broker memory calls forward
  refine ⟨holds, recent.le_arrived, ?_, ?_⟩
  · intro maxTime output asked now limited behind succeeds last
    have inherits : earlier.Inherits life.bench.stage :=
      (earlier.inherits_start opened subtask broker).trans
        (Life.inherits_run combiner memory _ calls)
    have passed : life.bench.stage.lastFlush ≤ asked := by
      refine behind _ (List.cons_subset_cons opened ?_ recent.member)
      exact (Life.instants_run combiner memory _ calls).subset
    rcases tick_cases succeeds with ⟨early, stays, silent⟩ | ⟨emptied, recalled, outputs, flushed⟩
    · have within := lt_of_not_due (inherits.maxTime_eq.trans limited) early
      have stage_eq : last.bench.stage = life.bench.stage :=
        congrArg (fun attempt => attempt.state.stage) stays
      have journal_eq : last.journal = life.journal :=
        (congrArg (life.journal ++ ·) silent).trans (List.append_nil _)
      rw [stage_eq, journal_eq]
      refine ⟨.inr ⟨passed, within⟩, fun record member => ?_⟩
      have arrived := recent.le_arrived record member
      calc asked
          < life.bench.stage.lastFlush + maxTime := (Nat.sub_lt_iff_lt_add' passed).mp within
        _ ≤ record.1 + maxTime := Nat.add_le_add_right arrived _
    · have journal_eq : last.journal = life.journal ++ [_] :=
        congrArg (life.journal ++ ·) flushed
      rw [journal_eq, held_concat]
      exact ⟨.inl emptied, fun record absent => absurd absent List.not_mem_nil⟩
  · intro bench asked now unlimited
    rw [onProcessingTime, unlimited]

/-- A sum is too large to be flushed, and lost when a record of its key is refused; another is
kept.  Just before a millisecond has passed since the opening a tick leaves it, and then it is
flushed. -/
theorem no_record_outwaits_maxTime_failing :
    let cause : Error := ⟨.custom "too large", []⟩
    let combiner := smallSums cause
    let earlier : Stage Nat Nat := .unopened (.ofCount 5) ⟨0, 5, some 1000000, .global⟩ .absent 0
    let subtask : Subtask := ⟨"sums", 0, 1⟩
    let calls : List (List Nat × Call (Nat × Nat)) :=
      [([], .ask (.batch [⟨20, 20, (1, 12)⟩])), ([7], .ask (.flush 30)),
        ([], .ask (.batch [⟨40, 41, (1, 0)⟩])), ([], .ask (.batch [⟨50, 51, (2, 5)⟩])),
        ([8], .ask (.tick 60 61))]
    let life := Life.run combiner 0 (earlier.start 10 subtask .empty).1 calls
    let early := life.ask combiner ([8], .tick 1000009 1000010)
    let late := life.ask combiner ([8], .tick 1000010 1000011)
    (10 :: readings calls).Pairwise (· ≤ ·) ∧
      held combiner.key life.journal = [(50, (2, 5))] ∧
      life.bench.stage.lastFlush = 10 ∧
      life.bench.stage.bundle.get? 2 = some 5 ∧
      combiner.Yields [(2, 5)] (life.bench.stage.bundle.get? 2) ∧
      held combiner.key early.journal = [(50, (2, 5))] ∧
      (∀ record ∈ held combiner.key early.journal, 1000009 < record.1 + 1000000) ∧
      late.delivered = [5] ∧
      (∀ record ∈ held combiner.key late.journal, 1000010 < record.1 + 1000000) ∧
      onProcessingTime combiner 5 6
          ⟨0, .unopened (.ofCount 5) ⟨0, 5, none, .global⟩ .absent 0, [7]⟩ =
        { state := ⟨0, .unopened (.ofCount 5) ⟨0, 5, none, .global⟩ .absent 0, [7]⟩ } := by
  intro cause combiner earlier subtask calls life early late
  have forward : (10 :: readings calls).Pairwise (· ≤ ·) := by decide +kernel
  have behind : ∀ reading ∈ 10 :: readings calls, reading ≤ 1000009 := by decide +kernel
  obtain ⟨yields, -, bounded, unlimited⟩ :=
    no_record_outwaits_maxTime combiner earlier 10 subtask .empty 0 calls forward
  have kept : ofKey combiner.key 2 (held combiner.key life.journal) = [(2, 5)] := by
    decide +kernel
  refine ⟨forward, ?_, ?_, ?_, ?_, ?_, ?_, ?_, ?_, unlimited _ 5 6 rfl⟩
  · decide +kernel
  · decide +kernel
  · decide +kernel
  · rw [← kept]
    exact yields 2
  · decide +kernel
  · exact (bounded 1000000 [8] 1000009 1000010 rfl behind (by decide +kernel)).2
  · decide +kernel
  · exact (bounded 1000000 [8] 1000010 1000011 rfl
      (fun reading member => Nat.le_succ_of_le (behind reading member)) (by decide +kernel)).2

end Bench
end PreAggregation
