import PreAggregation.Proofs.Stage.Pacing

/-!
# Where a stage flushes

Behind its opening, a stage in whose requests nothing fails flushes just when with the next
record the threshold in force is reached.  Under a threshold that stays the records fall
into blocks of this many, each with its flush, and what is left over is retained.
-/

namespace PreAggregation

/-! ## Blocks of one size -/

section Lists

variable {α : Type}

/-- The blocks of one size behind one another are cut out where they stand. -/
theorem take_drop_flatten
    {size : Nat}
    {blocks : List (List α)}
    (full : ∀ block ∈ blocks, block.length = size)
    (rest : List α)
    {index : Nat}
    {block : List α}
    (found : blocks[index]? = some block) :
    ((blocks.flatten ++ rest).drop (index * size)).take size = block := by
  induction blocks generalizing index with
  | nil => cases found
  | cons first others inductionHypothesis =>
      have length_eq := full first List.mem_cons_self
      rw [List.flatten_cons, List.append_assoc]
      cases index with
      | zero =>
          obtain rfl := Option.some.inj found
          rw [Nat.zero_mul, List.drop_zero, ← length_eq, List.take_left]
      | succ index =>
          rw [Nat.succ_mul, Nat.add_comm, ← List.drop_drop, ← length_eq, List.drop_left,
            length_eq]
          exact inductionHypothesis (fun other inside => full other (List.mem_cons_of_mem _ inside))
            found

end Lists

open Entry

/-- A block of records with the flush that follows. -/
structure Block (φ ι ο : Type) where
  /-- The records. -/
  folds : List (Fold φ ι)
  /-- What the function remembers when it is asked for the outputs, and when it has answered. -/
  recalled : Recall φ
  /-- What the clock shows. -/
  now : Instant
  /-- The outputs. -/
  outputs : List ο

namespace Block

variable {φ κ ν ι ο : Type} [DecidableEq κ]

/-- What the journal tells of a block. -/
def entries
    (combiner : Combiner φ κ ν ι ο)
    (block : Block φ ι ο) : List (Entry φ κ ν ι ο) :=
  block.folds.map .folded ++
    [.flushed block.recalled block.now (combiner.bundled block.folds) block.outputs]

end Block

/-- Whether an entry is about an adjustment. -/
def Entry.isAdjusted {φ κ ν ι ο : Type} : Entry φ κ ν ι ο → Bool
  | .adjusted _ => true
  | .opened _ | .folded _ | .refused .. | .flushed .. | .withheld _ | .closed => false

namespace Bench

variable {φ κ ν ι ο : Type} [DecidableEq κ] {combiner : Combiner φ κ ν ι ο}

/-! ## Runs under one threshold -/

namespace Life

/-- The threshold stays, and only records make the stage flush. -/
structure Steady
    (combiner : Combiner φ κ ν ι ο)
    (memory : φ)
    (opened : Stage κ ν)
    (threshold : Nat)
    (requests : List (List ο × Request ι)) : Prop where
  /-- The threshold. -/
  maxCount_eq : ∀ before after, requests = before ++ after →
    (serve combiner memory opened before).bench.stage.trigger.maxCount = threshold
  /-- Nothing is flushed without records. -/
  flushes_eq_nil : ∀ before buffer request after,
    requests = before ++ (buffer, request) :: after → request.records = [] →
      flushes (requestEntries combiner
        { (serve combiner memory opened before).bench with output := buffer } request) = []

/-- A life that took some records under one threshold, in blocks each of which was flushed, and
with a rest that is retained. -/
structure InBlocks
    (combiner : Combiner φ κ ν ι ο)
    (flushesBefore threshold : Nat)
    (life : Life φ κ ν ι ο)
    (taken : List ι)
    (blocks : List (Block φ ι ο))
    (rest : List (Fold φ ι)) : Prop where
  /-- Everything that counts agrees. -/
  keepsPace : life.KeepsPace combiner flushesBefore
  /-- The threshold. -/
  maxCount_eq : life.bench.stage.trigger.maxCount = threshold
  /-- Apart from adjustments, the journal tells of the blocks and of the rest. -/
  journal_eq : (life.journal.filter fun entry => !entry.isAdjusted) =
    blocks.flatMap (Block.entries combiner) ++ rest.map .folded
  /-- The records that are not flushed. -/
  unflushed_eq : unflushed life.journal = rest
  /-- The flushes. -/
  flushes_eq : flushes life.journal =
    blocks.map fun block => (combiner.bundled block.folds, block.outputs)
  /-- The records, one behind the other. -/
  records_eq : (blocks.flatMap Block.folds ++ rest).map Fold.record = taken
  /-- Each block is as long as the threshold asks for. -/
  length_eq : ∀ block ∈ blocks, block.folds.length = threshold
  /-- Each block is emitted. -/
  emits : ∀ block ∈ blocks,
    combiner.Emits block.recalled (combiner.bundled block.folds) block.outputs
  /-- The rest is no block. -/
  length_lt : rest.length < threshold

section Records

variable {flushesBefore threshold : Nat} {life next : Life φ κ ν ι ο} {taken : List ι}
  {blocks : List (Block φ ι ο)} {rest : List (Fold φ ι)} {arrival : Arrival ι}

theorem InBlocks.isDue_iff
    (inBlocks : life.InBlocks combiner flushesBefore threshold taken blocks rest) :
    life.IsDue ↔ threshold ≤ rest.length + 1 := by
  rw [IsDue, inBlocks.maxCount_eq, inBlocks.unflushed_eq]

/-- A record behind which a flush is due makes a block of the rest. -/
theorem InBlocks.takes_of_isDue
    (inBlocks : life.InBlocks combiner flushesBefore threshold taken blocks rest)
    (keepsPace : next.KeepsPace combiner flushesBefore)
    (takes : life.Takes combiner arrival next)
    (due : life.IsDue) :
    ∃ block, next.InBlocks combiner flushesBefore threshold (taken ++ [arrival.record])
      (blocks ++ [block]) [] := by
  obtain ⟨memory, told⟩ := takes.journal_eq
  rw [inBlocks.unflushed_eq, if_pos due] at told
  obtain ⟨last, outputs, emits, journal_eq, -⟩ := told
  let fold : Fold φ ι := ⟨⟨life.bench.memory, memory⟩, arrival.arrived, arrival.record⟩
  let block : Block φ ι ο := ⟨rest ++ [fold], ⟨memory, last⟩, arrival.now, outputs⟩
  have full : block.folds.length = threshold :=
    List.length_append.trans (Nat.le_antisymm inBlocks.length_lt (inBlocks.isDue_iff.mp due))
  refine ⟨block, ?_⟩
  exact
    { keepsPace
      maxCount_eq := takes.maxCount_eq.trans inBlocks.maxCount_eq
      journal_eq := by
        rw [journal_eq, List.filter_append, inBlocks.journal_eq]
        simp [Block.entries, block, fold, isAdjusted]
      unflushed_eq := by
        rw [journal_eq, List.append_cons, unflushed_concat]
        rfl
      flushes_eq := by
        rw [journal_eq, List.append_cons, flushes_concat, flushes_concat, inBlocks.flushes_eq]
        simp [flush?, block, fold]
      records_eq := by
        rw [← inBlocks.records_eq]
        simp [block, fold]
      length_eq := List.forall_mem_append.mpr
        ⟨inBlocks.length_eq, List.forall_mem_singleton.mpr full⟩
      emits := List.forall_mem_append.mpr ⟨inBlocks.emits, List.forall_mem_singleton.mpr emits⟩
      length_lt := inBlocks.maxCount_eq ▸ inBlocks.keepsPace.maxCount_pos }

/-- A record behind which no flush is due joins the rest. -/
theorem InBlocks.takes_of_not_isDue
    (inBlocks : life.InBlocks combiner flushesBefore threshold taken blocks rest)
    (keepsPace : next.KeepsPace combiner flushesBefore)
    (takes : life.Takes combiner arrival next)
    (early : ¬life.IsDue) :
    ∃ fold, next.InBlocks combiner flushesBefore threshold (taken ++ [arrival.record])
      blocks (rest ++ [fold]) := by
  obtain ⟨memory, told⟩ := takes.journal_eq
  rw [inBlocks.unflushed_eq, if_neg early] at told
  let fold : Fold φ ι := ⟨⟨life.bench.memory, memory⟩, arrival.arrived, arrival.record⟩
  refine ⟨fold, ?_⟩
  exact
    { keepsPace
      maxCount_eq := takes.maxCount_eq.trans inBlocks.maxCount_eq
      journal_eq := by
        rw [told.1, List.filter_append, inBlocks.journal_eq]
        simp [fold, isAdjusted]
      unflushed_eq := by
        rw [told.1, unflushed_concat, inBlocks.unflushed_eq]
        rfl
      flushes_eq := by
        rw [told.1, flushes_concat, inBlocks.flushes_eq]
        exact List.append_nil _
      records_eq := by
        rw [← inBlocks.records_eq]
        simp [fold]
      length_eq := inBlocks.length_eq
      emits := inBlocks.emits
      length_lt := by
        rw [List.length_append]
        exact Nat.lt_of_not_le (inBlocks.isDue_iff.not.mp early) }

theorem InBlocks.record
    (inBlocks : life.InBlocks combiner flushesBefore threshold taken blocks rest)
    {buffer : List ο}
    (succeeds : (processElement combiner arrival.now arrival.record
      { life.bench with output := buffer }).result = .ok ()) :
    ∃ blocks rest, (life.ask combiner (buffer, .batch [arrival])).InBlocks combiner flushesBefore
      threshold (taken ++ [arrival.record]) blocks rest := by
  obtain ⟨keepsPace, takes⟩ := inBlocks.keepsPace.record succeeds
  by_cases due : life.IsDue
  · obtain ⟨block, filled⟩ := inBlocks.takes_of_isDue keepsPace takes due
    exact ⟨_, _, filled⟩
  · obtain ⟨fold, joined⟩ := inBlocks.takes_of_not_isDue keepsPace takes due
    exact ⟨_, _, joined⟩

end Records

/-- A request that succeeds without records and without a flush is about adjustments. -/
theorem isAdjusted_of_quiet
    {bench : Bench φ κ ν ο}
    {request : Request ι}
    (succeeds : (Bench.serve combiner bench request).result = .ok ())
    (nothing : request.records = [])
    (quiet : flushes (requestEntries combiner bench request) = []) :
    ∀ entry ∈ requestEntries combiner bench request, entry.isAdjusted = true := by
  have flushed {now : Instant} {bench : Bench φ κ ν ο}
      (succeeds : (flush combiner now bench).result = .ok ())
      (quiet : flushes (flushEntries combiner now bench) = []) : False := by
    obtain ⟨last, outputs, -, told, -⟩ := exists_flush_of_ok succeeds
    rw [told] at quiet
    cases quiet
  cases request with
  | batch arrivals =>
      obtain rfl := List.map_eq_nil_iff.mp nothing
      exact fun entry inside => absurd inside List.not_mem_nil
  | flush now => exact (flushed succeeds quiet).elim
  | timeTrigger now => exact (flushed succeeds quiet).elim
  | tick asked now =>
      rw [Bench.serve, onProcessingTime_eq] at succeeds
      rw [requestEntries] at quiet ⊢
      split at succeeds
      · rename_i due
        rw [if_pos due] at quiet
        exact (flushed succeeds quiet).elim
      · rename_i early
        rw [if_neg early]
        exact fun entry inside => absurd inside List.not_mem_nil
  | finish now =>
      rw [Bench.serve, onEnd] at succeeds
      rw [requestEntries] at quiet ⊢
      split at succeeds
      · rename_i empty
        rw [if_pos empty]
        exact fun entry inside => absurd inside List.not_mem_nil
      · rename_i occupied
        rw [if_neg occupied] at quiet
        exact (flushed succeeds quiet).elim
  | change change =>
      rw [requestEntries, List.forall_mem_map]
      exact fun kind _ => rfl

omit [DecidableEq κ] in
/-- Adjustments leave the records that are not flushed. -/
theorem unflushed_append_of_isAdjusted
    {journal told : List (Entry φ κ ν ι ο)}
    (adjusts : ∀ entry ∈ told, entry.isAdjusted = true) :
    unflushed (journal ++ told) = unflushed journal := by
  induction told using List.reverseRecOn with
  | nil => rw [List.append_nil]
  | append_singleton told entry inductionHypothesis =>
      rw [← List.append_assoc, unflushed_concat,
        inductionHypothesis fun other inside => adjusts other (List.mem_append_left _ inside)]
      cases entry with
      | adjusted kind => rfl
      | _ =>
          have last := adjusts _ (List.mem_append_right _ List.mem_cons_self)
          exact absurd last Bool.false_ne_true

theorem InBlocks.ask
    {flushesBefore threshold : Nat}
    {life : Life φ κ ν ι ο}
    {taken : List ι}
    {blocks : List (Block φ ι ο)}
    {rest : List (Fold φ ι)}
    (inBlocks : life.InBlocks combiner flushesBefore threshold taken blocks rest)
    {buffer : List ο}
    {request : Request ι}
    (succeeds :
      (Bench.serve combiner { life.bench with output := buffer } request).result = .ok ())
    (maxCount_eq :
      (life.ask combiner (buffer, request)).bench.stage.trigger.maxCount = threshold)
    (quiet : request.records = [] →
      flushes (requestEntries combiner { life.bench with output := buffer } request) = []) :
    ∃ blocks rest, (life.ask combiner (buffer, request)).InBlocks combiner flushesBefore
      threshold (taken ++ request.records) blocks rest := by
  by_cases nothing : request.records = []
  · have adjusts := isAdjusted_of_quiet succeeds nothing (quiet nothing)
    have keepsPace := inBlocks.keepsPace.ask succeeds
    refine ⟨blocks, rest, ?_⟩
    rw [nothing, List.append_nil]
    have journal_eq : (life.ask combiner (buffer, request)).journal = life.journal ++
        requestEntries combiner { life.bench with output := buffer } request := by rw [ask_eq]
    exact
      { keepsPace
        maxCount_eq
        journal_eq := by
          rw [journal_eq, List.filter_append, inBlocks.journal_eq]
          refine (congrArg _ (List.filter_eq_nil_iff.mpr fun entry inside => ?_)).trans
            (List.append_nil _)
          rw [adjusts entry inside]
          exact Bool.false_ne_true
        unflushed_eq := by
          rw [journal_eq, unflushed_append_of_isAdjusted adjusts, inBlocks.unflushed_eq]
        flushes_eq := by
          rw [journal_eq, flushes, List.filterMap_append, ← flushes, ← flushes, quiet nothing,
            List.append_nil, inBlocks.flushes_eq]
        records_eq := inBlocks.records_eq
        length_eq := inBlocks.length_eq
        emits := inBlocks.emits
        length_lt := inBlocks.length_lt }
  · cases request with
    | batch arrivals =>
        refine batch_induction (motive := fun life taken => ∃ blocks rest,
          life.InBlocks combiner flushesBefore threshold taken blocks rest) ?_ ?_ taken
          ⟨blocks, rest, inBlocks⟩ succeeds
        · rintro life taken buffer ⟨blocks, rest, inBlocks⟩
          exact ⟨blocks, rest, { inBlocks with keepsPace := inBlocks.keepsPace.handed buffer }⟩
        · rintro life taken buffer arrival ⟨blocks, rest, inBlocks⟩ succeeds
          exact inBlocks.record succeeds
    | flush | timeTrigger | tick | finish | change => exact absurd rfl nothing

theorem Steady.of_append
    {memory : φ}
    {opened : Stage κ ν}
    {threshold : Nat}
    {earlier later : List (List ο × Request ι)}
    (steady : Steady combiner memory opened threshold (earlier ++ later)) :
    Steady combiner memory opened threshold earlier where
  maxCount_eq before after division := by
    apply steady.maxCount_eq before (after ++ later)
    rw [division, List.append_assoc]
  flushes_eq_nil before buffer request after division := by
    apply steady.flushes_eq_nil before buffer request (after ++ later)
    rw [division, List.append_assoc, List.cons_append]

/-- Requests that succeed under one threshold are served in blocks. -/
theorem InBlocks.serve
    {flushesBefore threshold : Nat}
    {memory : φ}
    {opened : Stage κ ν}
    (begins : (Life.serve combiner memory opened []).InBlocks combiner flushesBefore threshold
      [] [] [])
    {requests : List (List ο × Request ι)}
    (succeeds : (Life.serve combiner memory opened []).Succeeds combiner requests)
    (steady : Steady combiner memory opened threshold requests) :
    ∃ blocks rest, (Life.serve combiner memory opened requests).InBlocks combiner flushesBefore
      threshold (requests.flatMap fun asked => asked.2.records) blocks rest := by
  induction requests using List.reverseRecOn with
  | nil => exact ⟨[], [], begins⟩
  | append_singleton requests asked inductionHypothesis =>
      obtain ⟨before, last, -⟩ := succeeds_append.mp succeeds
      obtain ⟨blocks, rest, inBlocks⟩ := inductionHypothesis before steady.of_append
      have maxCount_eq := steady.maxCount_eq (requests ++ [asked]) [] (List.append_nil _).symm
      rw [serve_concat] at maxCount_eq ⊢
      rw [List.flatMap_append, List.flatMap_singleton]
      exact inBlocks.ask last maxCount_eq (steady.flushes_eq_nil requests asked.1 asked.2 [] rfl)

/-- Batches that succeed leave the threshold alone. -/
theorem KeepsPace.maxCount_serve_of_batches
    {flushesBefore : Nat}
    {memory : φ}
    {opened : Stage κ ν}
    (begins : (Life.serve combiner memory opened []).KeepsPace combiner flushesBefore)
    {requests : List (List ο × Request ι)}
    (succeeds : (Life.serve combiner memory opened []).Succeeds combiner requests)
    (batches : ∀ asked ∈ requests, ∃ arrivals, asked.2 = .batch arrivals) :
    (Life.serve combiner memory opened requests).bench.stage.trigger.maxCount =
      opened.trigger.maxCount := by
  induction requests using List.reverseRecOn with
  | nil => rfl
  | append_singleton requests asked inductionHypothesis =>
      obtain ⟨before, last, -⟩ := succeeds_append.mp succeeds
      obtain ⟨buffer, request⟩ := asked
      obtain ⟨arrivals, rfl⟩ := batches (buffer, request) (by simp)
      have maxCount_eq := inductionHypothesis before
        fun asked inside => batches asked (List.mem_append_left _ inside)
      rw [serve_concat]
      refine (batch_induction
        (motive := fun life _ => life.KeepsPace combiner flushesBefore ∧
          life.bench.stage.trigger.maxCount = opened.trigger.maxCount)
        ?_ ?_ [] ⟨begins.serve before, maxCount_eq⟩ last).2
      · exact fun life taken buffer holds => ⟨holds.1.handed buffer, holds.2⟩
      · intro life taken buffer arrival holds recordSucceeds
        obtain ⟨behind, takes⟩ := holds.1.record recordSucceeds
        exact ⟨behind, takes.maxCount_eq.trans holds.2⟩

/-- Under batches that succeed the threshold stays. -/
theorem KeepsPace.steady_of_batches
    {flushesBefore : Nat}
    {memory : φ}
    {opened : Stage κ ν}
    (begins : (Life.serve combiner memory opened []).KeepsPace combiner flushesBefore)
    {requests : List (List ο × Request ι)}
    (succeeds : (Life.serve combiner memory opened []).Succeeds combiner requests)
    (batches : ∀ asked ∈ requests, ∃ arrivals, asked.2 = .batch arrivals) :
    Steady combiner memory opened opened.trigger.maxCount requests where
  maxCount_eq := by
    rintro before after rfl
    exact begins.maxCount_serve_of_batches (succeeds_append.mp succeeds).1
      fun asked inside => batches asked (List.mem_append_left _ inside)
  flushes_eq_nil := by
    rintro before buffer request after rfl nothing
    obtain ⟨arrivals, rfl⟩ := batches (buffer, request) (by simp)
    obtain rfl := List.map_eq_nil_iff.mp nothing
    rfl

/-- Each record of a batch is followed by a flush just if this is due. -/
theorem KeepsPace.within_batch
    {flushesBefore : Nat}
    {life : Life φ κ ν ι ο}
    (keepsPace : life.KeepsPace combiner flushesBefore)
    {buffer : List ο}
    {earlier later : List (Arrival ι)}
    {arrival : Arrival ι}
    (succeeds : (Bench.serve combiner { life.bench with output := buffer }
      (.batch (earlier ++ arrival :: later))).result = .ok ()) :
    let reached := life.ask combiner (buffer, .batch earlier)
    reached.KeepsPace combiner flushesBefore ∧
      reached.Takes combiner arrival
        (life.ask combiner (buffer, .batch (earlier ++ [arrival]))) := by
  obtain ⟨front, behind⟩ := result_serve_batch_append_eq_ok_iff.mp succeeds
  obtain ⟨handled, -⟩ := result_serve_batch_cons_eq_ok_iff.mp behind
  have reached : (life.ask combiner (buffer, .batch earlier)).KeepsPace combiner flushesBefore :=
    keepsPace.ask front
  rw [ask_batch_append front]
  refine ⟨reached, (reached.record ?_).2⟩
  rw [ask_eq]
  exact handled

/-! ## Flushes on time -/

theorem keepsPace_start
    {earlier : Stage κ ν}
    (positive : 0 < earlier.trigger.maxCount)
    (now : Instant)
    (subtask : Subtask)
    (broker : MemoryBroker)
    (memory : φ) :
    let opened := (earlier.start now subtask broker).1
    (Life.serve combiner memory opened []).KeepsPace combiner opened.flushCount := by
  obtain ⟨listening, opened_eq⟩ := earlier.exists_start_eq now subtask broker
  dsimp only
  rw [opened_eq]
  exact
    { count_eq := rfl
      bundle_eq := rfl
      entries_eq_nil_iff := iff_of_true rfl rfl
      maxCount_pos := positive
      flushCount_eq := rfl }

end Life

/-- A run flushes when the threshold is reached, and at no other record. -/
structure FlushesOnTime
    (combiner : Combiner φ κ ν ι ο)
    (memory : φ)
    (opened : Stage κ ν)
    (requests : List (List ο × Request ι)) : Prop where
  /-- Between any two requests the count, the bundle and the number of flushes are those of
  the journal. -/
  keepsPace : ∀ before after, requests = before ++ after →
    (Life.serve combiner memory opened before).KeepsPace combiner opened.flushCount
  /-- Each record of each batch is followed by a flush just if this is due, and leaves a
  count below the threshold. -/
  takes : ∀ before buffer earlier arrival later after,
    requests = before ++ (buffer, .batch (earlier ++ arrival :: later)) :: after →
    let life := Life.serve combiner memory opened (before ++ [(buffer, .batch earlier)])
    life.KeepsPace combiner opened.flushCount ∧
      life.Takes combiner arrival (Life.serve combiner memory opened
        (before ++ [(buffer, .batch (earlier ++ [arrival]))]))
  /-- It does not matter how records come in batches. -/
  serve_batch_append : ∀ before buffer earlier later after,
    requests = before ++ (buffer, .batch (earlier ++ later)) :: after →
    let life := Life.serve combiner memory opened (before ++ [(buffer, .batch earlier)])
    Life.serve combiner memory opened (before ++ [(buffer, .batch (earlier ++ later))]) =
      Life.serve combiner memory opened
        (before ++ [(buffer, .batch earlier), (life.bench.output, .batch later)])
  /-- Under one threshold the records are flushed in full blocks, and the rest is retained. -/
  blocks : ∀ threshold, Life.Steady combiner memory opened threshold requests →
    let records := requests.flatMap fun asked => asked.2.records
    let life := Life.serve combiner memory opened requests
    ∃ blocks rest,
      life.InBlocks combiner opened.flushCount threshold records blocks rest ∧
      blocks.length = records.length / threshold ∧
      life.bench.stage.flushCount = opened.flushCount + records.length / threshold ∧
      (∀ index block, blocks[index]? = some block →
        block.folds.map Fold.record = (records.drop (index * threshold)).take threshold) ∧
      life.bench.stage.bundle = combiner.bundled rest ∧
      rest.map Fold.record = records.rtake (records.length % threshold)

/-- The numbers of blocks and of their records. -/
theorem Life.InBlocks.numbers
    {flushesBefore threshold : Nat}
    {life : Life φ κ ν ι ο}
    {records : List ι}
    {blocks : List (Block φ ι ο)}
    {rest : List (Fold φ ι)}
    (inBlocks : life.InBlocks combiner flushesBefore threshold records blocks rest) :
    blocks.length = records.length / threshold ∧
      life.bench.stage.flushCount = flushesBefore + records.length / threshold ∧
      (∀ index block, blocks[index]? = some block →
        block.folds.map Fold.record = (records.drop (index * threshold)).take threshold) ∧
      life.bench.stage.bundle = combiner.bundled rest ∧
      rest.map Fold.record = records.rtake (records.length % threshold) := by
  have positive : 0 < threshold := inBlocks.maxCount_eq ▸ inBlocks.keepsPace.maxCount_pos
  let cut := blocks.map fun block => block.folds.map Fold.record
  have full : ∀ block ∈ cut, block.length = threshold := by
    simp only [cut, List.forall_mem_map, List.length_map]
    exact inBlocks.length_eq
  have whole : records = cut.flatten ++ rest.map Fold.record := by
    rw [← inBlocks.records_eq, List.map_append, List.map_flatMap, List.flatMap_def]
  have total : cut.flatten.length = blocks.length * threshold := by
    rw [List.length_flatten, List.sum_eq_card_nsmul _ threshold (List.forall_mem_map.mpr full),
      List.length_map, List.length_map, Nat.nsmul_eq_mul]
  have parts : rest.length + threshold * blocks.length = records.length := by
    rw [whole, List.length_append, total, List.length_map, Nat.mul_comm, Nat.add_comm]
  obtain ⟨quotient, remainder⟩ :=
    (Nat.div_mod_unique positive).mpr ⟨parts, inBlocks.length_lt⟩
  refine ⟨quotient.symm, ?_, ?_, ?_, ?_⟩
  · rw [inBlocks.keepsPace.flushCount_eq, inBlocks.flushes_eq, List.length_map, quotient]
  · intro index block found
    rw [whole]
    refine (take_drop_flatten full _ ?_).symm
    rw [List.getElem?_map, found, Option.map_some]
  · rw [inBlocks.keepsPace.bundle_eq, inBlocks.unflushed_eq]
  · have length_eq : (rest.map Fold.record).length = rest.length := List.length_map _
    rw [remainder, ← length_eq, whole, List.rtake, List.length_append, Nat.add_sub_cancel,
      List.drop_left]

/-- From its opening on a stage in whose requests nothing fails flushes on time. -/
theorem flushes_on_time
    (combiner : Combiner φ κ ν ι ο)
    (earlier : Stage κ ν)
    (positive : 0 < earlier.trigger.maxCount)
    (opened : Instant)
    (subtask : Subtask)
    (broker : MemoryBroker)
    (memory : φ)
    (requests : List (List ο × Request ι))
    (succeeds : (Life.serve combiner memory (earlier.start opened subtask broker).1 []).Succeeds
      combiner requests) :
    FlushesOnTime combiner memory (earlier.start opened subtask broker).1 requests := by
  have begins : (Life.serve combiner memory (earlier.start opened subtask broker).1 []).KeepsPace
      combiner (earlier.start opened subtask broker).1.flushCount :=
    Life.keepsPace_start positive opened subtask broker memory
  exact
    { keepsPace := by
        rintro before after rfl
        exact begins.serve (Life.succeeds_append.mp succeeds).1
      takes := by
        rintro before buffer first arrival later after rfl
        obtain ⟨front, batch, -⟩ := Life.succeeds_append.mp succeeds
        simp only [Life.serve_concat]
        exact (begins.serve front).within_batch batch
      serve_batch_append := by
        rintro before buffer first later after rfl
        obtain ⟨-, batch, -⟩ := Life.succeeds_append.mp succeeds
        intro life
        rw [List.append_cons before (buffer, .batch first) [(_, .batch later)]]
        simp only [life, Life.serve_concat]
        exact Life.ask_batch_append (result_serve_batch_append_eq_ok_iff.mp batch).1 later
      blocks := by
        intro threshold steady
        have maxCount_eq := steady.maxCount_eq [] requests rfl
        obtain ⟨blocks, rest, inBlocks⟩ := Life.InBlocks.serve
          { keepsPace := begins
            maxCount_eq
            journal_eq := rfl
            unflushed_eq := rfl
            flushes_eq := rfl
            records_eq := rfl
            length_eq := fun block inside => absurd inside List.not_mem_nil
            emits := fun block inside => absurd inside List.not_mem_nil
            length_lt := maxCount_eq ▸ begins.maxCount_pos }
          succeeds steady
        exact ⟨blocks, rest, inBlocks, inBlocks.numbers⟩ }

/-- A threshold that is lowered below the count makes the next record flush, and one that
is raised puts the flush off.  Five records in two batches are two blocks of two. -/
theorem flushes_on_time_lowered :
    let four : Stage Nat Nat := .unopened (.ofCount 4) ⟨0, 4, none, .global⟩ .absent 0
    let two : Stage Nat Nat := .unopened (.ofCount 2) ⟨0, 2, none, .global⟩ .absent 0
    let subtask : Subtask := ⟨"count", 0, 1⟩
    let opened := (four.start 0 subtask .empty).1
    let pairs := (two.start 0 subtask .empty).1
    let changed : List (List (Nat × Nat × Nat) × Request (Nat × Nat)) :=
      [([], .batch [⟨1, 1, (7, 1)⟩, ⟨1, 1, (7, 1)⟩, ⟨1, 1, (8, 1)⟩]),
        ([], .change (.setMaxCount 2)), ([(5, 5, 5)], .batch [⟨3, 4, (8, 1)⟩]),
        ([], .change (.setMaxCount 5)),
        ([], .batch [⟨5, 5, (9, 1)⟩, ⟨5, 6, (9, 1)⟩, ⟨6, 6, (9, 1)⟩]), ([], .finish 7)]
    let batches : List (List (Nat × Nat × Nat) × Request (Nat × Nat)) :=
      [([], .batch [⟨1, 1, (7, 1)⟩, ⟨1, 1, (7, 1)⟩, ⟨1, 1, (7, 1)⟩]),
        ([], .batch [⟨2, 2, (8, 1)⟩, ⟨2, 2, (9, 1)⟩])]
    let whole := Life.serve numberedSums 0 opened changed
    let last := Life.serve numberedSums 0 pairs batches
    FlushesOnTime numberedSums 0 opened changed ∧
      FlushesOnTime numberedSums 0 pairs batches ∧
      whole.delivered = [(0, 7, 2), (0, 8, 2), (1, 9, 3)] ∧
      whole.bench.memory = 2 ∧
      Life.Steady numberedSums 0 pairs 2 batches ∧
      last.delivered = [(0, 7, 2), (1, 7, 1), (1, 8, 1)] ∧
      last.bench.stage.flushCount = 2 ∧
      last.bench.stage.bundle.entries = [(9, 1)] := by
  intro four two subtask opened pairs changed batches whole last
  have steps : (Life.serve numberedSums 0 opened []).Succeeds numberedSums changed := by
    decide +kernel
  have blocks : (Life.serve numberedSums 0 pairs []).Succeeds numberedSums batches := by
    decide +kernel
  refine ⟨?_, ?_, by decide +kernel, by decide +kernel, ?_, by decide +kernel,
    by decide +kernel, by decide +kernel⟩
  · exact flushes_on_time numberedSums four (by decide) 0 subtask .empty 0 changed steps
  · exact flushes_on_time numberedSums two (by decide) 0 subtask .empty 0 batches blocks
  · exact (Life.keepsPace_start (by decide) 0 subtask .empty 0).steady_of_batches blocks
      (by simp [batches])

end Bench
end PreAggregation
