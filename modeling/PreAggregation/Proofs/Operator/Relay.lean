import PreAggregation.Proofs.Operator.Elements
import PreAggregation.Proofs.Operator.Indifference

/-!
# A chain and two tasks

A chain hands what its head emits to its tail as one batch, within the hook of the head.
Two tasks hand it over element by element, at any later time.  For operators that are
indifferent to batches and to the clock both come to the same.
-/

namespace PreAggregation
namespace Step

variable {σ τ μ ο : Type}

theorem Matches.announced
    {alike : σ → τ → Prop}
    {first : Step σ ο}
    {second : Step τ ο}
    (matched : Matches alike first second)
    (mark : Option (Element ο)) :
    Matches alike (first.announced mark) (second.announced mark) := by
  refine ⟨?_, ?_, ?_⟩
  · rw [result_announced, result_announced]
    exact matched.succeeds_iff
  · intro succeeds
    rw [result_announced] at succeeds
    rw [announced_of_ok succeeds, announced_of_ok (matched.succeeds_iff.mp succeeds),
      matched.emitted_eq succeeds]
  · intro succeeds
    rw [result_announced] at succeeds
    rw [state_announced, state_announced]
    exact matched.alike succeeds

/-- The outputs of two steps can be sent one after another, with the mark behind both. -/
theorem matches_announced_andThen
    (step : Step σ ο)
    (next : σ → Step σ ο)
    (mark : Option (Element ο)) :
    Matches Eq ((step.andThen next).announced mark)
      ((step.announced none).andThen fun state => (next state).announced mark) := by
  cases result : step.result with
  | error error =>
      apply Matches.of_errors
      · rw [Ne, result_announced, andThen_of_error result, result]
        simp
      · rw [Ne, result_andThen_eq_ok_iff, result_announced, result]
        simp
  | ok value =>
      cases nextResult : (next step.state).result with
      | error error =>
          apply Matches.of_errors
          · rw [Ne, result_announced, result_andThen_eq_ok_iff, nextResult]
            simp
          · rw [Ne, result_andThen_eq_ok_iff, result_announced, state_announced, result_announced,
              nextResult]
            simp
      | ok value =>
          apply Matches.of_eq
          simp only [announced, andThen, result, nextResult, List.map_append, List.append_assoc,
            Option.toList_none, List.nil_append]

theorem announced_feeding
    (head : Step σ μ)
    (state : τ)
    (next : τ → Step τ ο)
    (mark : Option (Element ο)) :
    (head.feeding state next).announced mark =
      head.feeding state fun state => (next state).announced mark := by
  cases result : head.result with
  | error error => simp only [feeding, announced, result]
  | ok value =>
      rw [feeding_of_ok result, feeding_of_ok result]
      unfold announced
      cases handled : (next state).result with
      | error error => simp only [mapState, handled]
      | ok value => simp only [mapState, handled]

end Step

namespace Task

open Step

variable {σ τ ι μ ο : Type}

/-! ## One batch and its records -/

section Records

variable {operator : Operator τ μ ο} {alike : τ → τ → Prop}

/-- A batch is handled like its records one after another, each at its time. -/
theorem matches_process_respondAll
    (indifferent : operator.Indifferent alike)
    {records : List μ}
    {timed : List (Instant × Element μ)}
    (carried : timed.map Prod.snd = records.map (Element.record · none))
    (now : Instant)
    {state other : τ}
    (related : alike state other) :
    Matches alike ((operator.process now records state).announced none)
      (respondAll operator timed other) := by
  induction records generalizing timed state other with
  | nil =>
      obtain rfl := List.map_eq_nil_iff.mp carried
      rw [indifferent.process_nil]
      exact ⟨Iff.rfl, fun _ => rfl, fun _ => related⟩
  | cons record rest inductionHypothesis =>
      obtain ⟨first, later, rfl, isRecord, carriesRest⟩ := List.map_eq_cons_iff.mp carried
      obtain ⟨time, element⟩ := first
      obtain rfl : element = .record record none := isRecord
      have cut := (indifferent.process_append now [record] rest state).announced none
      rw [List.singleton_append] at cut
      apply cut.of_eq_left
      apply (matches_announced_andThen _ _ none).of_eq_left
      have handled := (indifferent.process_alike related now time [record]).announced none
      rw [respondAll, each_cons]
      apply handled.andThen
      intro succeeded
      exact inductionHypothesis carriesRest (handled.alike succeeded)

/-- A batch and a hook behind it are handled like the records and the mark that calls the
hook. -/
theorem matches_hook_respondAll
    (indifferent : operator.Indifferent alike)
    {hook : τ → Step τ ο}
    {mark : Element ο}
    {last : Element μ}
    (answers : ∀ {state other}, alike state other → ∀ time,
      Matches alike ((hook state).announced (some mark)) (respond operator (time, last) other))
    {records : List μ}
    {timed : List (Instant × Element μ)}
    (carried : timed.map Prod.snd = records.map (Element.record · none) ++ [last])
    (now : Instant)
    {state other : τ}
    (related : alike state other) :
    Matches alike (((operator.process now records state).andThen hook).announced (some mark))
      (respondAll operator timed other) := by
  obtain ⟨front, back, rfl, carriesRecords, carriesLast⟩ := List.map_eq_append_iff.mp carried
  obtain ⟨⟨time, element⟩, none_, rfl, isLast, nothing⟩ := List.map_eq_cons_iff.mp carriesLast
  obtain rfl := List.map_eq_nil_iff.mp nothing
  obtain rfl : element = last := isLast
  apply (matches_announced_andThen _ hook (some mark)).of_eq_left
  have handled := matches_process_respondAll indifferent carriesRecords now related
  rw [respondAll_append]
  apply handled.andThen
  intro succeeded
  rw [respondAll, each_singleton]
  exact answers (handled.alike succeeded) time

end Records

/-! ## One element -/

section Chain

variable {head : Operator σ ι μ} {tail : Operator τ μ ο}
variable {headAlike : σ → σ → Prop} {tailAlike : τ → τ → Prop}

/-- A step of the head that feeds the tail, sent as a whole, is the step sent to the tail,
if the tail makes the same of it. -/
theorem matches_announced_feeding
    {step other : Step σ μ}
    (matched : Matches headAlike step other)
    {state otherState : τ}
    {next : τ → Step τ ο}
    {timed : List (Instant × Element μ)}
    {mark : Option (Element μ)}
    {lastMark : Option (Element ο)}
    (carried : timed.map Prod.snd = (other.announced mark).emitted)
    (later : timed.map Prod.snd = step.emitted.map (Element.record · none) ++ mark.toList →
      Matches tailAlike ((next state).announced lastMark) (respondAll tail timed otherState)) :
    Matches (fun first second => headAlike first.1 second.1 ∧ tailAlike first.2 second.2)
      ((step.feeding state next).announced lastMark)
      ((other.announced mark).feeding otherState (respondAll tail timed)) := by
  rw [announced_feeding]
  apply matches_feeding
  · rw [result_announced]
    exact matched.succeeds_iff
  · rw [state_announced]
    exact matched.alike
  · intro succeeded
    apply later
    rw [carried, announced_of_ok (matched.succeeds_iff.mp succeeded),
      matched.emitted_eq succeeded]

/-- A chain answers an element like its head, and then its tail what the head sent. -/
theorem matches_respond_chain
    (headIndifferent : head.Indifferent headAlike)
    (tailIndifferent : tail.Indifferent tailAlike)
    (now headNow : Instant)
    (element : Element ι)
    {state other : σ × τ}
    (headRelated : headAlike state.1 other.1)
    (tailRelated : tailAlike state.2 other.2)
    {timed : List (Instant × Element μ)}
    (carried : timed.map Prod.snd = (respond head (headNow, element) other.1).emitted) :
    Matches (fun first second => headAlike first.1 second.1 ∧ tailAlike first.2 second.2)
      (respond (head.chain tail) (now, element) state)
      ((respond head (headNow, element) other.1).feeding other.2 (respondAll tail timed)) := by
  have idle := tailIndifferent.process_nil
  cases element with
  | record value time =>
      simp only [respond, Operator.process_chain idle] at carried ⊢
      apply matches_announced_feeding
        (headIndifferent.process_alike headRelated now headNow [value]) carried
      intro carries
      apply matches_process_respondAll tailIndifferent _ now tailRelated
      simpa using carries
  | watermark time =>
      simp only [respond, Operator.chain, Operator.handOver_andThen_eq_releasing idle] at carried ⊢
      apply matches_announced_feeding
        (headIndifferent.timer_alike headRelated now headNow time) carried
      intro carries
      apply matches_hook_respondAll tailIndifferent _ carries now tailRelated
      intro state other related tailNow
      exact (tailIndifferent.timer_alike related now tailNow time).announced _
  | finished =>
      simp only [respond, Operator.chain, Operator.handOver_andThen_eq_releasing idle] at carried ⊢
      apply matches_announced_feeding (headIndifferent.finish_alike headRelated now headNow) carried
      intro carries
      apply matches_hook_respondAll tailIndifferent _ carries now tailRelated
      intro state other related tailNow
      exact (tailIndifferent.finish_alike related now tailNow).announced _

/-! ## Streams -/

/-- A chain answers a stream like its head, and then its tail the whole answer of the
head, whenever its elements come. -/
theorem matches_respondAll_chain
    (headIndifferent : head.Indifferent headAlike)
    (tailIndifferent : tail.Indifferent tailAlike)
    {timed headTimed : List (Instant × Element ι)}
    (sameElements : timed.map Prod.snd = headTimed.map Prod.snd)
    {state other : σ × τ}
    (headRelated : headAlike state.1 other.1)
    (tailRelated : tailAlike state.2 other.2)
    {tailTimed : List (Instant × Element μ)}
    (carried : tailTimed.map Prod.snd = (respondAll head headTimed other.1).emitted) :
    Matches (fun first second => headAlike first.1 second.1 ∧ tailAlike first.2 second.2)
      (respondAll (head.chain tail) timed state)
      ((respondAll head headTimed other.1).feeding other.2 (respondAll tail tailTimed)) := by
  induction timed generalizing headTimed state other tailTimed with
  | nil =>
      obtain rfl := List.map_eq_nil_iff.mp sameElements.symm
      obtain rfl := List.map_eq_nil_iff.mp carried
      exact ⟨Iff.rfl, fun _ => rfl, fun _ => ⟨headRelated, tailRelated⟩⟩
  | cons first rest inductionHypothesis =>
      obtain ⟨headFirst, headRest, rfl, sameFirst, sameRest⟩ :=
        List.map_eq_cons_iff.mp sameElements.symm
      obtain ⟨now, element⟩ := first
      obtain ⟨headNow, headElement⟩ := headFirst
      obtain rfl : headElement = element := sameFirst
      simp only [respondAll, each_cons] at carried ⊢
      cases result : (respond head (headNow, headElement) other.1).result with
      | error error =>
          have nothing : ([] : List (Instant × Element μ)).map Prod.snd =
              (respond head (headNow, headElement) other.1).emitted :=
            (emitted_respond_of_error result).symm
          have matched := matches_respond_chain headIndifferent tailIndifferent now headNow
            headElement headRelated tailRelated nothing
          apply Matches.of_errors
          · rw [Ne, result_andThen_eq_ok_iff, matched.succeeds_iff, result_feeding_eq_ok_iff, result]
            simp
          · rw [Ne, result_feeding_eq_ok_iff, result_andThen_eq_ok_iff, result]
            simp
      | ok value =>
          rw [andThen_of_ok result] at carried
          obtain ⟨early, late, rfl, carriesEarly, carriesLate⟩ := List.map_eq_append_iff.mp carried
          have matched := matches_respond_chain headIndifferent tailIndifferent now headNow
            headElement headRelated tailRelated carriesEarly
          -- The tail can wait with the first part of its input until the head is done.
          apply Matches.of_eq_right ?_ (matches_feeding_andThen (fun _ => respondAll tail late)
            fun _ => Matches.of_eq (respondAll_append tail early late other.2))
          apply matched.andThen
          intro succeeded
          have related := matched.alike succeeded
          rw [feeding_of_ok result] at related ⊢
          exact inductionHypothesis sameRest.symm related.1 related.2 carriesLate

/-- A task that runs a chain succeeds where two tasks do of which the second gets what the
first sends.  It sends what the second sends, and leaves states that are alike. -/
theorem relay
    (headIndifferent : head.Indifferent headAlike)
    (tailIndifferent : tail.Indifferent tailAlike)
    (fused first : Shift ι)
    (second : Shift μ)
    (state : σ × τ)
    {body : List (Element ι)}
    (unended : ∀ element ∈ body, element.isFinished = false)
    (ends : fused.elements = body ++ [.finished])
    (sameElements : first.elements = fused.elements)
    (carried : second.elements = (first.run head state.1).sent) :
    let whole := fused.run (head.chain tail) state
    let former := first.run head state.1
    let latter := second.run tail state.2
    (whole.result = .ok () ↔ former.result = .ok () ∧ latter.result = .ok ()) ∧
    (whole.result = .ok () → whole.sent = latter.sent ∧
      headAlike whole.state.1 former.state ∧ tailAlike whole.state.2 latter.state) := by
  have chainIndifferent := Operator.indifferent_chain headIndifferent tailIndifferent
  have whole := Shift.responds (chainIndifferent.result_start fused.opened fused.subtask state)
    (chainIndifferent.result_stop fused.closed) unended ends
  have former := Shift.responds (headIndifferent.result_start first.opened first.subtask state.1)
    (headIndifferent.result_stop first.closed) unended (sameElements.trans ends)
  obtain ⟨wholeState, wholeSent, wholeSucceeds⟩ := whole
  rw [Operator.start_chain headIndifferent tailIndifferent] at wholeState wholeSent wholeSucceeds
  let together : σ × τ := ((head.start fused.opened fused.subtask state.1).state,
    (tail.start fused.opened fused.subtask state.2).state)
  let apart : σ × τ := ((head.start first.opened first.subtask state.1).state,
    (tail.start second.opened second.subtask state.2).state)
  have headRelated : headAlike together.1 apart.1 :=
    headIndifferent.start_alike (headIndifferent.refl state.1) _ _ _ _
  have tailRelated : tailAlike together.2 apart.2 :=
    tailIndifferent.start_alike (tailIndifferent.refl state.2) _ _ _ _
  have matched := matches_respondAll_chain headIndifferent tailIndifferent sameElements.symm
    headRelated tailRelated (carried.trans former.sent_eq)
  -- The second task is told the end only if the first succeeded.
  have latter (succeeded : (first.run head state.1).result = .ok ()) :
      second.Responds tail state.2 := by
    obtain ⟨front, sent_eq, frontUnended⟩ := emitted_respondAll_of_ok unended
      (sameElements.trans ends) (former.succeeds_iff.mp succeeded)
    exact Shift.responds (tailIndifferent.result_start second.opened second.subtask state.2)
      (tailIndifferent.result_stop second.closed) frontUnended
      ((carried.trans former.sent_eq).trans sent_eq)
  have succeeds_iff : (fused.run (head.chain tail) state).result = .ok () ↔
      (first.run head state.1).result = .ok () ∧ (second.run tail state.2).result = .ok () := by
    rw [wholeSucceeds, matched.succeeds_iff, result_feeding_eq_ok_iff, ← former.succeeds_iff]
    exact and_congr_right fun succeeded => (latter succeeded).succeeds_iff.symm
  refine ⟨succeeds_iff, ?_⟩
  intro succeeds
  obtain ⟨formerOk, latterOk⟩ := succeeds_iff.mp succeeds
  have emitted_eq := matched.emitted_eq (wholeSucceeds.mp succeeds)
  have related := matched.alike (wholeSucceeds.mp succeeds)
  rw [feeding_of_ok (former.succeeds_iff.mp formerOk)] at emitted_eq related
  rw [wholeSent, wholeState, former.state_eq, (latter formerOk).sent_eq, (latter formerOk).state_eq]
  exact ⟨emitted_eq, headIndifferent.stop_alike related.1 fused.closed first.closed,
    tailIndifferent.stop_alike related.2 fused.closed second.closed⟩

end Chain
end Task
end PreAggregation
