import PreAggregation.Proofs.Operator.Books
import PreAggregation.Proofs.Stage.Totals

/-!
# The books of a stage

A stage whose folds cannot fail keeps its books under every key, and every partial that
it emits counts at least one record.  It does so too if its threshold changes between the
records of one batch.
-/

namespace PreAggregation
namespace Bundle

variable {κ ν : Type} [DecidableEq κ]

theorem mem_assign
    {key : κ}
    {value : ν}
    {entries : List (κ × ν)}
    {entry : κ × ν}
    (member : entry ∈ assign key value entries) :
    entry = (key, value) ∨ entry ∈ entries := by
  induction entries with
  | nil => exact .inl (List.mem_singleton.mp member)
  | cons head rest inductionHypothesis =>
      obtain ⟨other, old⟩ := head
      by_cases same : other = key
      · rw [assign, if_pos same] at member
        exact (List.mem_cons.mp member).imp_right (List.mem_cons_of_mem _)
      · rw [assign, if_neg same] at member
        rcases List.mem_cons.mp member with rfl | later
        · exact .inr List.mem_cons_self
        · exact (inductionHypothesis later).imp_right (List.mem_cons_of_mem _)

end Bundle

namespace Stage

variable {κ ν ι ο : Type} [DecidableEq κ]

open Aggregation

/-- The books of a stage under a key.  Its partials count at least one record each. -/
def books
    (measure : ν → Nat)
    (key : κ) : Books (Stage κ ν) (κ × ν) Nat where
  held := held measure key
  value := share measure key
  sound stage := ∀ entry ∈ stage.bundle.entries, 1 ≤ measure entry.2
  proper entry := 1 ≤ measure entry.2

/-- The operator of a stage whose threshold changes while batches are handled.  What the
changes are in front of a record is told by the number of records before it. -/
def unsettled
    (aggregation : Aggregation κ ν ι ο)
    (unrest : Nat → List Change) : Operator ((Stage κ ν × MemoryBroker) × Nat) ι ο where
  start now subtask state :=
    { state := (((operator aggregation).start now subtask state.1).state, state.2) }
  process now records state :=
    Step.each
      (fun record state =>
        (processElement aggregation now record
            ((unrest state.2).foldl (fun stage change => change.apply stage) state.1.1)).mapState
          fun stage => ((stage, state.1.2), state.2 + 1))
      records state
  timer now domain time state :=
    ((operator aggregation).timer now domain time state.1).mapState (·, state.2)
  finish now state := ((operator aggregation).finish now state.1).mapState (·, state.2)
  stop now state := { state := (((operator aggregation).stop now state.1).state, state.2) }

variable {aggregation : Aggregation κ ν ι (κ × ν)} {measure : ν → Nat}

/-! ## Steps -/

theorem settles_flush
    (additive : aggregation.Additive measure fun _ => 1)
    (infallible : aggregation.Infallible)
    (now : Instant)
    (key : κ)
    {stage : Stage κ ν}
    (sound : (books measure key).sound stage) :
    (flush aggregation now stage).Settles (books measure key) stage 0 where
  succeeds := result_flush_of_infallible infallible now stage
  balanced :=
    balanced_flush additive now key stage (result_flush_of_infallible infallible now stage)
  sound entry member := by
    rw [entries_flush_of_ok (result_flush_of_infallible infallible now stage)] at member
    exact absurd member List.not_mem_nil
  proper output member := by
    rcases flush_cases aggregation now stage with
      ⟨_, flushed⟩ | ⟨_, collected, flushed⟩ | ⟨_, error, _, flushed⟩
    · rw [flushed] at member
      exact absurd member List.not_mem_nil
    · rw [flushed] at member
      exact sound output ((additive.outputs_perm collected).mem_iff.mp member)
    · rw [flushed] at member
      exact absurd member List.not_mem_nil

theorem settles_processElement
    (additive : aggregation.Additive measure fun _ => 1)
    (infallible : aggregation.Infallible)
    (now : Instant)
    (key : κ)
    (record : ι)
    {stage : Stage κ ν}
    (sound : (books measure key).sound stage) :
    (processElement aggregation now record stage).Settles (books measure key) stage
      (share id key (aggregation.key record, 1)) := by
  have balanced := balanced_processElement additive now key record stage
  rcases processElement_cases aggregation now record stage with
    ⟨error, failed, _⟩ | ⟨merged, folded, processed⟩
  · obtain ⟨merged, folded⟩ := infallible.addInput_ok
      (stage.bundle.get? (aggregation.key record)) record
    rw [folded] at failed
    exact absurd failed (by simp)
  · have counted :
        (books measure key).sound (stage.withMerged (aggregation.key record) merged) := by
      intro entry member
      rcases Bundle.mem_assign member with rfl | old
      · have measured := additive.measure_merged folded
        dsimp only at measured ⊢
        omega
      · exact sound entry old
    rw [processed] at balanced ⊢
    split at balanced
    · rename_i fires
      rw [if_pos fires]
      have flushed := settles_flush additive infallible now key counted
      exact ⟨flushed.succeeds, balanced flushed.succeeds, flushed.sound, flushed.proper⟩
    · rename_i waits
      rw [if_neg waits]
      exact ⟨rfl, balanced rfl, counted, fun _ member => absurd member List.not_mem_nil⟩

theorem settles_onProcessingTime
    (additive : aggregation.Additive measure fun _ => 1)
    (infallible : aggregation.Infallible)
    (now : Instant)
    (key : κ)
    {stage : Stage κ ν}
    (sound : (books measure key).sound stage) :
    (onProcessingTime aggregation now stage).Settles (books measure key) stage 0 := by
  rw [onProcessingTime_eq]
  split
  · have flushed : (timeTrigger aggregation now stage).Settles (books measure key)
        { stage with trigger := stage.trigger.reset } 0 :=
      settles_flush additive infallible now key sound
    exact ⟨flushed.succeeds, flushed.balanced, flushed.sound, flushed.proper⟩
  · exact Step.settles_idle sound rfl

theorem settles_onEnd
    (additive : aggregation.Additive measure fun _ => 1)
    (infallible : aggregation.Infallible)
    (now : Instant)
    (key : κ)
    {stage : Stage κ ν}
    (sound : (books measure key).sound stage) :
    (onEnd aggregation now stage).Settles (books measure key) stage 0 := by
  rcases onEnd_cases aggregation now stage with ⟨_, ended⟩ | ⟨_, ended⟩
  · rw [ended]
    exact Step.settles_idle sound rfl
  · rw [ended]
    exact settles_flush additive infallible now key sound

/-! ## Hooks -/

/-- A stage keeps its books. -/
theorem accountable_operator
    (additive : aggregation.Additive measure fun _ => 1)
    (infallible : aggregation.Infallible)
    (key : κ) :
    (operator aggregation).Accountable ((books measure key).within Prod.fst)
      fun record => share id key (aggregation.key record, 1) where
  start now subtask state := by
    have nothing := bundle_start state.1 now subtask state.2
    refine ⟨rfl, ?_, ?_⟩
    · change total measure key (state.1.start now subtask state.2).1.bundle.entries = 0
      rw [nothing]
      rfl
    · intro entry member
      change entry ∈ (state.1.start now subtask state.2).1.bundle.entries at member
      rw [nothing] at member
      exact absurd member List.not_mem_nil
  process now records state sound := by
    have batch := Step.Settles.each
      (fun record {_} still => settles_processElement additive infallible now key record still)
      records sound
    change ((processBatch aggregation now records state.1).mapState (·, state.2)).Settles _ _ _
    exact Step.Settles.mapState batch fun _ => rfl
  timer now domain time state sound := by
    cases domain with
    | eventTime => exact Step.settles_idle sound rfl
    | processingTime =>
        have ticked := settles_onProcessingTime additive infallible now key sound
        change ((onProcessingTime aggregation now state.1).mapState (·, state.2)).Settles _ _ _
        exact Step.Settles.mapState ticked fun _ => rfl
  finish now state sound := by
    have ended := settles_onEnd additive infallible now key sound
    change ((onEnd aggregation now state.1).mapState (·, state.2)).Settles _ _ _
    exact Step.Settles.mapState ended fun _ => rfl
  released now state sound := by
    have ended := settles_onEnd additive infallible now key sound
    have nothing := entries_onEnd_of_ok ended.succeeds
    change total measure key (onEnd aggregation now state.1).state.bundle.entries = 0
    rw [nothing]
    rfl
  stop _ _ := rfl

/-- A stage keeps its books whatever happens to its threshold. -/
theorem accountable_unsettled
    (additive : aggregation.Additive measure fun _ => 1)
    (infallible : aggregation.Infallible)
    (unrest : Nat → List Change)
    (key : κ) :
    (unsettled aggregation unrest).Accountable
      ((books measure key).within fun state => state.1.1)
      fun record => share id key (aggregation.key record, 1) where
  start now subtask state :=
    (accountable_operator additive infallible key).start now subtask state.1
  process now records state sound := by
    apply Step.Settles.each _ records sound
    intro record state still
    have same : ∀ (changes : List Change) (stage : Stage κ ν),
        (changes.foldl (fun stage change => change.apply stage) stage).bundle = stage.bundle := by
      intro changes
      induction changes with
      | nil => exact fun _ => rfl
      | cons change rest inductionHypothesis =>
          intro stage
          rw [List.foldl_cons, inductionHypothesis, Change.bundle_apply]
    have changed : (books measure key).sound
        ((unrest state.2).foldl (fun stage change => change.apply stage) state.1.1) := by
      intro entry member
      rw [same] at member
      exact still entry member
    have folded := settles_processElement additive infallible now key record changed
    have balanced := folded.balanced
    change _ = total measure key (List.foldl _ state.1.1 (unrest state.2)).bundle.entries + _
      at balanced
    rw [same] at balanced
    exact ⟨folded.succeeds, balanced, folded.sound, folded.proper⟩
  timer now domain time state sound := by
    have ticked := (accountable_operator additive infallible key).timer now domain time sound
    exact ⟨ticked.succeeds, ticked.balanced, ticked.sound, ticked.proper⟩
  finish now state sound := by
    have ended := (accountable_operator additive infallible key).finish now sound
    exact ⟨ended.succeeds, ended.balanced, ended.sound, ended.proper⟩
  released now state sound :=
    (accountable_operator additive infallible key).released now sound
  stop _ _ := rfl

end Stage
end PreAggregation
