import PreAggregation.Proofs.Bundle.Keys
import PreAggregation.Proofs.Histories
import PreAggregation.Proofs.Stage.Failures
import PreAggregation.Proofs.Stage.Journal

/-!
# What a bundle retains

At every moment the partial of a key is the fold of the records of this key since the key was
last cut: by a flush that succeeded, by a record of the key that could not be folded, or
because the stage was opened or closed.  Each record is folded with what the function
remembered at that time, which is what its last answer left it with.  A flush that fails cuts
nothing, so what it kept is emitted by the next one that succeeds.
-/

namespace PreAggregation

namespace Entry

variable {φ κ ν ι ο : Type}

/-- What the function remembered, for an entry where it was asked. -/
def recalled? : Entry φ κ ν ι ο → Option (Recall φ)
  | .folded fold => some fold.recalled
  | .refused recalled _ => some recalled
  | .flushed recalled _ _ _ => some recalled
  | .withheld recalled => some recalled
  | .opened _ | .adjusted _ | .closed => none

/-- The record that an entry is about. -/
def record? : Entry φ κ ν ι ο → Option ι
  | .folded fold => some fold.record
  | .refused _ record => some record
  | .opened _ | .flushed .. | .withheld _ | .adjusted _ | .closed => none

/-- Whether an entry tells of a failure. -/
def isFailure : Entry φ κ ν ι ο → Bool
  | .refused .. | .withheld _ => true
  | .opened _ | .folded _ | .flushed .. | .adjusted _ | .closed => false

variable [DecidableEq κ]

/-- Whether nothing is left under a key behind an entry. -/
def cuts
    (keyOf : ι → κ)
    (key : κ) : Entry φ κ ν ι ο → Bool
  | .refused _ record => keyOf record = key
  | .opened _ | .flushed .. | .closed => true
  | .folded _ | .withheld _ | .adjusted _ => false

/-- What an entry folded under a key. -/
def foldOf?
    (keyOf : ι → κ)
    (key : κ) : Entry φ κ ν ι ο → Option (Fold φ ι)
  | .folded fold => if keyOf fold.record = key then some fold else none
  | .opened _ | .refused .. | .flushed .. | .withheld _ | .adjusted _ | .closed => none

/-- What was folded under a key since it was last cut, the oldest first. -/
def recent
    (keyOf : ι → κ)
    (key : κ)
    (journal : List (Entry φ κ ν ι ο)) : List (Fold φ ι) :=
  (journal.rtakeWhile fun entry => !entry.cuts keyOf key).filterMap (foldOf? keyOf key)

theorem recent_concat
    (keyOf : ι → κ)
    (key : κ)
    (journal : List (Entry φ κ ν ι ο))
    (entry : Entry φ κ ν ι ο) :
    recent keyOf key (journal ++ [entry]) =
      if entry.cuts keyOf key then []
      else recent keyOf key journal ++ (entry.foldOf? keyOf key).toList :=
  filterMap_rtakeWhile_concat (cuts keyOf key) (foldOf? keyOf key) journal entry

/-- Nothing that is not about records touches them. -/
theorem recent_concat_of_quiet
    {keyOf : ι → κ}
    {key : κ}
    {entry : Entry φ κ ν ι ο}
    (whole : entry.cuts keyOf key = false)
    (silent : entry.foldOf? keyOf key = none)
    (journal : List (Entry φ κ ν ι ο)) :
    recent keyOf key (journal ++ [entry]) = recent keyOf key journal := by
  rw [recent_concat, whole, silent, if_neg Bool.false_ne_true, Option.toList_none, List.append_nil]

end Entry

/-- What the function remembers is passed on from each answer to the next question. -/
def Recall.Linked {φ : Type} (first : φ) : List (Recall φ) → φ → Prop
  | [], last => first = last
  | recalled :: rest, last => recalled.before = first ∧ Linked recalled.behind rest last

theorem Recall.Linked.concat
    {φ : Type}
    {first middle : φ}
    {recalls : List (Recall φ)}
    (linked : Linked first recalls middle)
    {recalled : Recall φ}
    (asked : recalled.before = middle) :
    Linked first (recalls ++ [recalled]) recalled.behind := by
  induction recalls generalizing first with
  | nil => exact ⟨asked.trans linked.symm, rfl⟩
  | cons earlier rest inductionHypothesis =>
      exact ⟨linked.1, inductionHypothesis linked.2⟩

namespace Combiner

open Entry

variable {φ κ ν ι ο : Type}

/-- Records of one key folded one after another, from no partial on, and each with what the
function remembered then. -/
def foldAll
    (combiner : Combiner φ κ ν ι ο)
    (folds : List (Fold φ ι)) : Except Error (Option ν) :=
  folds.foldlM
    (fun current fold => (combiner.addInput fold.recalled.before current fold.record).2.map some)
    none

theorem foldAll_concat
    (combiner : Combiner φ κ ν ι ο)
    {folds : List (Fold φ ι)}
    {current : Option ν}
    (folded : combiner.foldAll folds = .ok current)
    (fold : Fold φ ι) :
    combiner.foldAll (folds ++ [fold]) =
      (combiner.addInput fold.recalled.before current fold.record).2.map some := by
  unfold foldAll at folded ⊢
  rw [List.foldlM_append, folded]
  simp only [bind, Except.bind, List.foldlM]
  cases (combiner.addInput fold.recalled.before current fold.record).2 <;> rfl

/-- For a bundle the function pushes these outputs onto some buffer, with what it remembered. -/
def Emits
    (combiner : Combiner φ κ ν ι ο)
    (recalled : Recall φ)
    (bundle : Bundle κ ν)
    (outputs : List ο) : Prop :=
  ∃ buffer, combiner.collect recalled.before bundle buffer =
    (recalled.behind, buffer ++ outputs, .ok ())

variable [DecidableEq κ]

/-- A bundle holds what a journal leaves: under each key once the fold of its recent records,
and nothing under a key without any. -/
structure Holds
    (combiner : Combiner φ κ ν ι ο)
    (journal : List (Entry φ κ ν ι ο))
    (bundle : Bundle κ ν) : Prop where
  /-- No key stands twice. -/
  nodup_keys : bundle.keys.Nodup
  /-- The partial of a key. -/
  foldAll_recent : ∀ key,
    combiner.foldAll (recent combiner.key key journal) = .ok (bundle.get? key)

/-- An entry is what the function answers where a journal has led to. -/
def Accounts
    (combiner : Combiner φ κ ν ι ο)
    (past : List (Entry φ κ ν ι ο)) : Entry φ κ ν ι ο → Prop
  | .folded fold => ∃ current merged,
      combiner.foldAll (recent combiner.key (combiner.key fold.record) past) = .ok current ∧
        combiner.addInput fold.recalled.before current fold.record =
          (fold.recalled.behind, .ok merged)
  | .refused recalled record => ∃ current cause,
      combiner.foldAll (recent combiner.key (combiner.key record) past) = .ok current ∧
        combiner.addInput recalled.before current record = (recalled.behind, .error cause)
  | .flushed recalled _ bundle outputs => combiner.Holds past bundle ∧
      if bundle.isEmpty then outputs = [] ∧ recalled.behind = recalled.before
      else combiner.Emits recalled bundle outputs
  | .withheld recalled => ∃ bundle buffer pushed cause, combiner.Holds past bundle ∧
      bundle.isEmpty = false ∧
        combiner.collect recalled.before bundle buffer = (recalled.behind, pushed, .error cause)
  | .opened _ | .adjusted _ | .closed => True

section Steps

variable {combiner : Combiner φ κ ν ι ο} {journal : List (Entry φ κ ν ι ο)}
  {bundle : Bundle κ ν}

theorem holds_nil : combiner.Holds [] (.empty : Bundle κ ν) where
  nodup_keys := List.nodup_nil
  foldAll_recent _ := rfl

/-- Behind an entry that cuts every key nothing is held. -/
theorem holds_cut
    {entry : Entry φ κ ν ι ο}
    (cut : ∀ key, entry.cuts combiner.key key = true) :
    combiner.Holds (journal ++ [entry]) .empty where
  nodup_keys := List.nodup_nil
  foldAll_recent key := by
    rw [recent_concat, cut key]
    rfl

theorem Holds.quiet
    (holds : combiner.Holds journal bundle)
    {entry : Entry φ κ ν ι ο}
    (whole : ∀ key, entry.cuts combiner.key key = false)
    (silent : ∀ key, entry.foldOf? combiner.key key = none) :
    combiner.Holds (journal ++ [entry]) bundle where
  nodup_keys := holds.nodup_keys
  foldAll_recent key := by
    rw [recent_concat_of_quiet (whole key) (silent key)]
    exact holds.foldAll_recent key

theorem Holds.folded
    (holds : combiner.Holds journal bundle)
    {fold : Fold φ ι}
    {merged : ν}
    (folded : combiner.addInput fold.recalled.before (bundle.get? (combiner.key fold.record))
      fold.record = (fold.recalled.behind, .ok merged)) :
    combiner.Holds (journal ++ [.folded fold])
      ⟨Bundle.assign (combiner.key fold.record) merged bundle.entries⟩ where
  nodup_keys := Bundle.nodup_map_fst_assign _ _ holds.nodup_keys
  foldAll_recent key := by
    rw [recent_concat, Bundle.get?, Bundle.lookup_assign]
    by_cases same : combiner.key fold.record = key
    · subst same
      simp only [cuts, foldOf?, Bool.false_eq_true, if_false, if_true, Option.toList_some]
      rw [foldAll_concat combiner (holds.foldAll_recent _), folded]
      rfl
    · simp only [cuts, foldOf?, Bool.false_eq_true, if_false, if_neg same, Option.toList_none,
        List.append_nil]
      exact holds.foldAll_recent key

theorem Holds.refused
    (holds : combiner.Holds journal bundle)
    (recalled : Recall φ)
    (record : ι) :
    combiner.Holds (journal ++ [.refused recalled record])
      ⟨Bundle.remove (combiner.key record) bundle.entries⟩ where
  nodup_keys := Bundle.nodup_map_fst_remove _ holds.nodup_keys
  foldAll_recent key := by
    rw [recent_concat, Bundle.get?, Bundle.lookup_remove]
    by_cases same : combiner.key record = key
    · simp only [cuts, same, decide_true, if_true]
      rfl
    · simp only [cuts, foldOf?, same, decide_false, Bool.false_eq_true, if_false,
        Option.toList_none, List.append_nil]
      exact holds.foldAll_recent key

end Steps

/-- A journal accounts for what the function remembers and for the bundle, from what the
function remembered at first. -/
structure Retains
    (combiner : Combiner φ κ ν ι ο)
    (first : φ)
    (journal : List (Entry φ κ ν ι ο))
    (memory : φ)
    (bundle : Bundle κ ν) : Prop where
  /-- The bundle holds what the journal leaves. -/
  holds : combiner.Holds journal bundle
  /-- Every entry is what the function answers there. -/
  accounts : ∀ past entry later, journal = past ++ entry :: later →
    combiner.Accounts past entry
  /-- Each time it was asked, the function remembered what its last answer left. -/
  linked : Recall.Linked first (journal.filterMap recalled?) memory

section Retains

variable {combiner : Combiner φ κ ν ι ο} {first memory : φ}
variable {journal : List (Entry φ κ ν ι ο)} {bundle next : Bundle κ ν}
variable {entry : Entry φ κ ν ι ο}

/-- The function was asked, and the entry tells its answer. -/
theorem Retains.asked
    (retains : combiner.Retains first journal memory bundle)
    {recalled : Recall φ}
    (told : entry.recalled? = some recalled)
    (before_eq : recalled.before = memory)
    {last : φ}
    (behind_eq : recalled.behind = last)
    (account : combiner.Accounts journal entry)
    (holds : combiner.Holds (journal ++ [entry]) next) :
    combiner.Retains first (journal ++ [entry]) last next where
  holds := holds
  accounts := forall_division_concat retains.accounts account
  linked := by
    rw [filterMap_concat, told, ← behind_eq]
    exact retains.linked.concat before_eq

/-- The function was not asked. -/
theorem Retains.unasked
    (retains : combiner.Retains first journal memory bundle)
    (untold : entry.recalled? = none)
    (account : combiner.Accounts journal entry)
    (holds : combiner.Holds (journal ++ [entry]) next) :
    combiner.Retains first (journal ++ [entry]) memory next where
  holds := holds
  accounts := forall_division_concat retains.accounts account
  linked := by
    rw [filterMap_concat, untold, Option.toList_none, List.append_nil]
    exact retains.linked

end Retains

end Combiner

namespace Bench

open Entry

variable {φ κ ν ι ο : Type} {combiner : Combiner φ κ ν ι ο}

/-! ## What a call reports -/

/-- The records of a request. -/
def Request.records : Request ι → List ι
  | .batch arrivals => arrivals.map Arrival.record
  | .flush _ | .timeTrigger _ | .tick .. | .finish _ | .change _ => []

/-- The records that arrive with a call. -/
def Call.records : Call ι → List ι
  | .ask request => request.records
  | .start .. | .stop _ => []

/-- Entries tell of some records from their front, and of all of them behind a success; and they
tell of a failure just if there was one. -/
structure Reports
    (records : List ι)
    (told : List (Entry φ κ ν ι ο))
    (result : Except Error Unit) : Prop where
  /-- The records are told in their order. -/
  front : told.filterMap record? <+: records
  /-- All records are told behind a success. -/
  whole : result = .ok () → told.filterMap record? = records
  /-- Failures are told. -/
  result_iff : result = .ok () ↔ ∀ entry ∈ told, entry.isFailure = false

theorem reports_nil : Reports ([] : List ι) ([] : List (Entry φ κ ν ι ο)) (.ok ()) :=
  ⟨List.nil_prefix, fun _ => rfl, by simp⟩

/-- Behind a success others can be reported. -/
theorem Reports.append
    {records others : List ι}
    {told more : List (Entry φ κ ν ι ο)}
    {result : Except Error Unit}
    (reports : Reports records told (.ok ()))
    (later : Reports others more result) :
    Reports (records ++ others) (told ++ more) result where
  front := by
    rw [List.filterMap_append, reports.whole rfl]
    exact (List.prefix_append_right_inj records).mpr later.front
  whole succeeds := by
    rw [List.filterMap_append, reports.whole rfl, later.whole succeeds]
  result_iff := by
    rw [List.forall_mem_append, later.result_iff]
    exact (and_iff_right (reports.result_iff.mp rfl)).symm

/-- Behind a failure there is nothing to report of others. -/
theorem Reports.of_error
    {records : List ι}
    {told : List (Entry φ κ ν ι ο)}
    {cause : Error}
    (reports : Reports records told (.error cause))
    (others : List ι) :
    Reports (records ++ others) told (.error cause) where
  front := reports.front.trans (List.prefix_append records others)
  whole succeeds := nomatch succeeds
  result_iff := reports.result_iff

theorem reports_flush
    (combiner : Combiner φ κ ν ι ο)
    (now : Instant)
    (bench : Bench φ κ ν ο) :
    Reports [] (flushEntries combiner now bench) (flush combiner now bench).result := by
  rcases flush_told combiner now bench with
    ⟨-, flushed, told⟩ | ⟨-, memory, outputs, -, flushed, told⟩ |
    ⟨-, memory, pushed, cause, -, flushed, told⟩
  · rw [flushed, told]
    exact ⟨List.prefix_refl [], fun _ => rfl, by simp [isFailure]⟩
  · rw [flushed, told]
    exact ⟨List.prefix_refl [], fun _ => rfl, by simp [isFailure]⟩
  · rw [flushed, told]
    exact ⟨List.prefix_refl [], fun _ => rfl, by simp [isFailure]⟩

variable [DecidableEq κ]

theorem reports_processElement
    (combiner : Combiner φ κ ν ι ο)
    (arrival : Arrival ι)
    (bench : Bench φ κ ν ο) :
    Reports [arrival.record] (elementEntries combiner arrival bench)
      (processElement combiner arrival.now arrival.record bench).result := by
  rcases processElement_cases combiner arrival.now bench arrival.record with
    ⟨memory, cause, failed, processed⟩ | ⟨memory, merged, folded, processed⟩
  · rw [elementEntries, failed, processed]
    exact ⟨List.prefix_refl _, fun _ => rfl, by simp [isFailure]⟩
  · have told (fold : Fold φ ι) :
        Reports [fold.record] [(.folded fold : Entry φ κ ν ι ο)] (.ok ()) :=
      ⟨List.prefix_refl _, fun _ => rfl, by simp [isFailure]⟩
    rw [elementEntries, folded, processed]
    by_cases fires : bench.stage.trigger.onElement.2 = true
    · simp only [if_pos fires]
      exact (told ⟨_, arrival.arrived, arrival.record⟩).append (reports_flush combiner _ _)
    · simp only [if_neg fires]
      exact told ⟨_, arrival.arrived, arrival.record⟩

theorem reports_processBatch
    (combiner : Combiner φ κ ν ι ο)
    (arrivals : List (Arrival ι))
    (bench : Bench φ κ ν ο) :
    Reports (arrivals.map Arrival.record) (batchEntries combiner arrivals bench)
      (processBatch combiner (arrivals.map fun arrival => (arrival.now, arrival.record))
        bench).result := by
  induction arrivals generalizing bench with
  | nil => exact reports_nil
  | cons arrival rest inductionHypothesis =>
      have first := reports_processElement combiner arrival bench
      rw [List.map_cons, List.map_cons, batchEntries, processBatch]
      cases attempted : (processElement combiner arrival.now arrival.record bench).result with
      | error cause =>
          rw [attempted] at first
          simp only [attempted, List.append_nil]
          exact first.of_error _
      | ok done =>
          rw [attempted] at first
          exact first.append (inductionHypothesis _)

/-- The journal of a request reports its records and its result. -/
theorem reports_serve
    (combiner : Combiner φ κ ν ι ο)
    (bench : Bench φ κ ν ο)
    (request : Request ι) :
    Reports request.records (requestEntries combiner bench request)
      (serve combiner bench request).result := by
  cases request with
  | batch arrivals => exact reports_processBatch combiner arrivals bench
  | flush now => exact reports_flush combiner now bench
  | timeTrigger now => exact reports_flush combiner now bench.restarted
  | tick asked now =>
      rw [requestEntries, serve, onProcessingTime_eq]
      split
      · exact reports_flush combiner now bench.restarted
      · exact reports_nil
  | finish now =>
      rw [requestEntries, serve, onEnd]
      split
      · exact reports_nil
      · exact reports_flush combiner now bench
  | change change =>
      have quiet : ∀ entry ∈ requestEntries combiner bench (.change change),
          entry.record? = none ∧ entry.isFailure = false := by
        intro entry member
        obtain ⟨kind, -, rfl⟩ := List.mem_map.mp member
        exact ⟨rfl, rfl⟩
      have silent := List.filterMap_eq_nil_iff.mpr fun entry member => (quiet entry member).1
      refine ⟨silent ▸ List.nil_prefix, fun _ => silent, ?_⟩
      exact iff_of_true rfl fun entry member => (quiet entry member).2

theorem reports_perform
    (combiner : Combiner φ κ ν ι ο)
    (bench : Bench φ κ ν ο)
    (call : Call ι) :
    Reports call.records (Bench.entries combiner bench call)
      (perform combiner bench call).result := by
  cases call with
  | start now subtask broker =>
      exact ⟨List.prefix_refl [], fun _ => rfl, by simp [Bench.entries, perform, isFailure]⟩
  | ask request => exact reports_serve combiner bench request
  | stop broker =>
      exact ⟨List.prefix_refl [], fun _ => rfl, by simp [Bench.entries, perform, isFailure]⟩

/-! ## What a life retains -/

omit [DecidableEq κ] in
theorem Withdraws.kept
    {bench : Bench φ κ ν ο}
    {attempt : Attempt (Bench φ κ ν ο)}
    (withdraws : Withdraws combiner bench attempt) :
    attempt.state.output = bench.output ∧ attempt.state.stage = bench.stage := by
  cases withdraws
  exact ⟨rfl, rfl⟩

/-- Every move is accounted for. -/
theorem Move.retains
    {bench next : Bench φ κ ν ο}
    {first : φ}
    {journal entries : List (Entry φ κ ν ι ο)}
    (move : Move combiner bench entries next)
    (retains : combiner.Retains first journal bench.memory bench.stage.bundle) :
    combiner.Retains first (journal ++ entries) next.memory next.stage.bundle := by
  have holds := retains.holds
  cases move with
  | folded arrived addition =>
      refine retains.asked rfl rfl rfl ?_ (holds.folded addition)
      exact ⟨_, _, holds.foldAll_recent _, addition⟩
  | refused failure =>
      refine retains.asked rfl rfl rfl ?_ (holds.refused _ _)
      exact ⟨_, _, holds.foldAll_recent _, failure⟩
  | idle now nothing =>
      refine retains.asked rfl rfl rfl ?_ (Combiner.holds_cut fun _ => rfl)
      refine ⟨holds, ?_⟩
      rw [if_pos nothing]
      exact ⟨rfl, rfl⟩
  | flushed now occupied collected =>
      refine retains.asked rfl rfl rfl ?_ (Combiner.holds_cut fun _ => rfl)
      refine ⟨holds, ?_⟩
      rw [occupied, if_neg Bool.false_ne_true]
      exact ⟨_, collected⟩
  | withheld occupied failed | overdue occupied failed =>
      refine retains.asked rfl rfl rfl ?_ (holds.quiet (fun _ => rfl) fun _ => rfl)
      exact ⟨_, _, _, _, holds, occupied, failed⟩
  | changed change =>
      rw [Stage.Change.bundle_apply]
      cases change.reported? bench.stage with
      | none =>
          rw [Option.toList_none, List.map_nil, List.append_nil]
          exact retains
      | some kind =>
          exact retains.unasked rfl trivial (holds.quiet (fun _ => rfl) fun _ => rfl)

/-- The records of a journal arrived with the calls, in this order. -/
theorem Life.records_run_sublist
    (memory : φ)
    (stage : Stage κ ν)
    (calls : List (List ο × Call ι)) :
    ((run combiner memory stage calls).journal.filterMap record?).Sublist
      (calls.flatMap fun call => call.2.records) := by
  induction calls using List.reverseRecOn with
  | nil => exact List.Sublist.refl []
  | append_singleton calls call inductionHypothesis =>
      rw [run_concat, Life.call, List.filterMap_append, List.flatMap_append,
        List.flatMap_singleton]
      exact inductionHypothesis.append (reports_perform combiner _ call.2).front.sublist

/-- From its opening on a stage retains just what was folded since the last cut, whatever its
function remembers, whatever is called and whatever fails.  The journal accounts for the bundle,
for what was delivered and for every answer of the function.  A call pushes onto its buffer what
its flushes that succeeded pushed, and nothing else, and fails just if its journal tells so.  A
flush that fails leaves the buffer and the stage as they were. -/
theorem retains_since_last_cut
    (combiner : Combiner φ κ ν ι ο)
    (earlier : Stage κ ν)
    (opened : Instant)
    (subtask : Subtask)
    (broker : MemoryBroker)
    (memory : φ)
    (calls : List (List ο × Call ι)) :
    let life := Life.run combiner memory (earlier.start opened subtask broker).1 calls
    combiner.Retains memory life.journal life.bench.memory life.bench.stage.bundle ∧
      life.delivered = life.journal.flatMap Entry.outputs ∧
      (life.journal.filterMap record?).Sublist (calls.flatMap fun call => call.2.records) ∧
      (∀ (bench : Bench φ κ ν ο) (call : Call ι),
        let told := Bench.entries combiner bench call
        let attempt := perform combiner bench call
        attempt.state.output = bench.output ++ told.flatMap Entry.outputs ∧
          Reports call.records told attempt.result) ∧
      ∀ (now : Instant) (bench : Bench φ κ ν ο) (error : Error),
        (flush combiner now bench).result = .error error →
          (flush combiner now bench).state.output = bench.output ∧
            (flush combiner now bench).state.stage = bench.stage := by
  intro life
  refine ⟨?_, Life.delivered_run memory _ calls, Life.records_run_sublist memory _ calls, ?_, ?_⟩
  · refine Life.preserve (motive := fun journal last stage =>
      combiner.Retains memory journal last stage.bundle) ?_ ?_ ?_ ?_ calls
    · exact fun move retains => move.retains retains
    · intro journal last stage now subtask broker retains
      rw [Stage.bundle_start]
      exact retains.unasked rfl trivial (Combiner.holds_cut fun _ => rfl)
    · intro journal last stage broker retains
      rw [Stage.fst_stop]
      exact retains.unasked rfl trivial (Combiner.holds_cut fun _ => rfl)
    · rw [Stage.bundle_start]
      exact
        { holds := Combiner.holds_nil
          accounts := fun past entry later division => absurd division (by simp)
          linked := rfl }
  · exact fun bench call =>
      ⟨output_perform combiner bench call, reports_perform combiner bench call⟩
  · exact fun now bench error fails => (withdraws_flush fails).kept

/-- A function that counts how often it was to collect.  It lists the values of each key with
this number, refuses zeros, and fails the first time behind its first output. -/
def balkyLists (cause : Error) :
    Combiner Nat Nat (List (Nat × Nat)) (Nat × Nat) (Nat × List (Nat × Nat)) where
  key := Prod.fst
  addInput attempts current record :=
    (attempts,
      if record.2 = 0 then .error cause else .ok (current.getD [] ++ [(attempts, record.2)]))
  collect attempts bundle output :=
    if attempts = 0 then (1, output ++ bundle.entries.take 1, .error cause)
    else (attempts + 1, output ++ bundle.entries, .ok ())
  collect_pushes attempts bundle output := by
    split
    · exact List.prefix_append output _
    · exact List.prefix_append output _

/-- A flush fails and leaves its bundle.  A record then drops one of the keys, another record
comes, and the next flush emits what was kept with it, in spite of the earlier failure. -/
theorem retains_since_last_cut_balky :
    let cause : Error := ⟨.custom "later", []⟩
    let combiner := balkyLists cause
    let earlier : Stage Nat (List (Nat × Nat)) :=
      .unopened (.ofCount 9) ⟨0, 9, none, .global⟩ .absent 0
    let subtask : Subtask := ⟨"lists", 0, 1⟩
    let life (calls : List (List (Nat × List (Nat × Nat)) × Call (Nat × Nat))) :=
      Life.run combiner 0 (earlier.start 0 subtask .empty).1 calls
    let first : List (List (Nat × List (Nat × Nat)) × Call (Nat × Nat)) :=
      [([], .ask (.batch [⟨1, 1, (1, 5)⟩, ⟨1, 1, (2, 7)⟩, ⟨1, 1, (1, 6)⟩]))]
    let others : List (List (Nat × List (Nat × Nat)) × Call (Nat × Nat)) :=
      [([(3, [])], .ask (.flush 2)), ([], .ask (.batch [⟨3, 3, (2, 0)⟩])),
        ([], .ask (.batch [⟨4, 4, (1, 8)⟩]))]
    let bench := { (life first).bench with output := [(3, [])] }
    let whole := life (first ++ others ++ [([(4, [])], .ask (.flush 5))])
    (flush combiner 2 bench).result ≠ .ok () ∧
      (flush combiner 2 bench).state.output = [(3, [])] ∧
      (flush combiner 2 bench).state.stage = bench.stage ∧
      (recent combiner.key 1 (life (first ++ others)).journal).map Fold.record =
        [(1, 5), (1, 6), (1, 8)] ∧
      recent combiner.key 2 (life (first ++ others)).journal = [] ∧
      combiner.Retains 0 whole.journal whole.bench.memory whole.bench.stage.bundle ∧
      whole.bench.memory = 2 ∧
      whole.delivered = [(1, [(0, 5), (0, 6), (1, 8)])] := by
  intro cause combiner earlier subtask life first others bench whole
  have fails : (flush combiner 2 bench).result =
      .error (cause.within (.stage (.combine .collect))) := by
    decide +kernel
  obtain ⟨-, -, -, -, withdrawn⟩ :=
    retains_since_last_cut combiner earlier 0 subtask .empty 0 first
  obtain ⟨retains, -⟩ := retains_since_last_cut combiner earlier 0 subtask .empty 0
    (first ++ others ++ [([(4, [])], .ask (.flush 5))])
  have kept := withdrawn 2 bench _ fails
  refine ⟨?_, kept.1, kept.2, by decide +kernel, by decide +kernel, ?_, by decide +kernel,
    by decide +kernel⟩
  · rw [fails]
    exact fun equal => by cases equal
  · dsimp only [whole, life]
    exact retains

end Bench

/-- Lists of the values of each key.  A zero is refused, and a bundle with the key zero
is not collected. -/
def strictLists : Aggregation Nat (List Nat) (Nat × Nat) (Nat × List Nat) where
  key := Prod.fst
  addInput current record :=
    if record.2 = 0 then .error ⟨.stage (.combine .addInput), []⟩
    else .ok (current.getD [] ++ [record.2])
  collect bundle :=
    if (bundle.get? 0).isSome then
      { outputs := bundle.entries.take 1, result := .error ⟨.stage (.combine .collect), []⟩ }
    else { outputs := bundle.entries }

end PreAggregation
