import PreAggregation.Operator.Task
import PreAggregation.Proofs.Operator.Matching

/-!
# Tasks element by element

A task without ticks answers the elements of its input one after another: records by
their outputs, and a mark by what was released for it and then the mark itself.  What is
behind the mark of the end is not looked at.
-/

namespace PreAggregation
namespace Step

variable {σ ο : Type}

/-- A step whose outputs are sent as records, with a mark behind them.  Nothing is sent
for a step that failed. -/
def announced
    (step : Step σ ο)
    (mark : Option (Element ο)) : Step σ (Element ο) :=
  match step.result with
  | .error error => { state := step.state, result := .error error }
  | .ok () =>
      { state := step.state, emitted := step.emitted.map (Element.record · none) ++ mark.toList }

theorem announced_of_ok
    {step : Step σ ο}
    (succeeded : step.result = .ok ())
    (mark : Option (Element ο)) :
    step.announced mark =
      { state := step.state
        emitted := step.emitted.map (Element.record · none) ++ mark.toList } := by
  simp only [announced, succeeded]

@[simp] theorem result_announced
    (step : Step σ ο)
    (mark : Option (Element ο)) :
    (step.announced mark).result = step.result := by
  unfold announced
  split
  · rename_i error failed
    exact failed.symm
  · rename_i succeeded
    exact succeeded.symm

@[simp] theorem state_announced
    (step : Step σ ο)
    (mark : Option (Element ο)) :
    (step.announced mark).state = step.state := by
  unfold announced
  split <;> rfl

end Step

namespace Task

open Step

variable {σ ι ο : Type}

/-- Elements that reach a task, each at its time. -/
def arrivals (timed : List (Instant × Element ι)) : List (Instant × Arrival σ ι) :=
  timed.map fun element => (element.1, .element element.2)

/-- What a task makes of one element. -/
def respond
    (operator : Operator σ ι ο)
    (timed : Instant × Element ι)
    (state : σ) : Step σ (Element ο) :=
  match timed.2 with
  | .record value _ => (operator.process timed.1 [value] state).announced none
  | .watermark time =>
      (operator.timer timed.1 .eventTime time state).announced (some (.watermark time))
  | .finished => (operator.finish timed.1 state).announced (some .finished)

/-- What a task makes of some elements, up to the first for which it fails. -/
def respondAll
    (operator : Operator σ ι ο)
    (timed : List (Instant × Element ι))
    (state : σ) : Step σ (Element ο) :=
  Step.each (respond operator) timed state

theorem emitted_respond_of_error
    {operator : Operator σ ι ο}
    {timed : Instant × Element ι}
    {state : σ}
    {error : Error}
    (failed : (respond operator timed state).result = .error error) :
    (respond operator timed state).emitted = [] := by
  obtain ⟨now, element⟩ := timed
  have silent (step : Step σ ο) (mark : Option (Element ο))
      (failed : (step.announced mark).result = .error error) :
      (step.announced mark).emitted = [] := by
    rw [result_announced] at failed
    simp only [announced, failed]
  cases element with
  | record value time => exact silent _ _ failed
  | watermark time => exact silent _ _ failed
  | finished => exact silent _ _ failed

theorem forward_eq
    (stats : TaskStats)
    (step : Step σ ο)
    (mark : Option (Element ο)) :
    (forward true stats step mark).state = (step.announced mark).state ∧
      (forward true stats step mark).sent = (step.announced mark).emitted ∧
      (forward true stats step mark).result = (step.announced mark).result := by
  unfold forward announced
  cases step.result with
  | error error => exact ⟨rfl, rfl, rfl⟩
  | ok value => exact ⟨rfl, rfl, rfl⟩

/-- One arrival of an element is one response. -/
theorem handle_element
    (operator : Operator σ ι ο)
    (timed : Instant × Element ι)
    (state : σ)
    (stats : TaskStats) :
    let progress := handle operator true timed.1 state stats (.element timed.2)
    progress.state = (respond operator timed state).state ∧
      progress.sent = (respond operator timed state).emitted ∧
      progress.result = (respond operator timed state).result ∧
      progress.ended = timed.2.isFinished := by
  obtain ⟨now, element⟩ := timed
  have open_ (stats : TaskStats) (step : Step σ ο) (mark : Option (Element ο)) :
      (forward true stats step mark).ended = false := by
    unfold forward
    split <;> rfl
  cases element with
  | record value time =>
      obtain ⟨state_eq, sent_eq, result_eq⟩ :=
        forward_eq { stats with recordsIn := stats.recordsIn + 1 }
          (operator.process now [value] state) none
      exact ⟨state_eq, sent_eq, result_eq, open_ _ _ _⟩
  | watermark time =>
      obtain ⟨state_eq, sent_eq, result_eq⟩ :=
        forward_eq { stats with watermarks := stats.watermarks + 1 }
          (operator.timer now .eventTime time state) (some (.watermark time))
      exact ⟨state_eq, sent_eq, result_eq, open_ _ _ _⟩
  | finished =>
      obtain ⟨state_eq, sent_eq, result_eq⟩ :=
        forward_eq stats (operator.finish now state) (some .finished)
      exact ⟨state_eq, sent_eq, result_eq, rfl⟩

/-- The loop of a task over elements up to the mark of the end gives one response after
another. -/
theorem loopFrom_arrivals
    (operator : Operator σ ι ο)
    {body : List (Instant × Element ι)}
    (unended : ∀ element ∈ body, element.2.isFinished = false)
    (now : Instant)
    (state : σ)
    (stats : TaskStats)
    (sent : List (Element ο)) :
    let run := loopFrom operator true state stats sent (arrivals (body ++ [(now, .finished)]))
    let step := respondAll operator (body ++ [(now, .finished)]) state
    run.state = step.state ∧ run.sent = sent.reverse ++ step.emitted ∧
      run.result = step.result := by
  induction body generalizing state stats sent with
  | nil =>
      obtain ⟨state_eq, sent_eq, result_eq, ended_eq⟩ :=
        handle_element operator (now, .finished) state stats
      simp only [List.nil_append, arrivals, List.map_cons, loopFrom, respondAll, each_cons]
      cases result : (respond operator (now, .finished) state).result with
      | error error =>
          rw [result] at result_eq
          rw [andThen_of_error result]
          simp only [result_eq, state_eq, sent_eq, result, List.reverse_append,
            List.reverse_reverse, and_self]
      | ok value =>
          rw [result] at result_eq
          rw [andThen_of_ok result]
          simp only [result_eq, state_eq, sent_eq, ended_eq, Element.isFinished, each_nil,
            List.reverse_append, List.reverse_reverse, List.append_nil, if_true, and_self]
  | cons element rest inductionHypothesis =>
      obtain ⟨state_eq, sent_eq, result_eq, ended_eq⟩ :=
        handle_element operator element state stats
      have open_ : element.2.isFinished = false := unended element List.mem_cons_self
      simp only [List.cons_append, arrivals, List.map_cons, loopFrom, respondAll, each_cons]
      cases result : (respond operator element state).result with
      | error error =>
          rw [result] at result_eq
          rw [andThen_of_error result]
          simp only [result_eq, state_eq, sent_eq, result, List.reverse_append,
            List.reverse_reverse, and_self]
      | ok value =>
          rw [result] at result_eq
          rw [andThen_of_ok result]
          simp only [result_eq, ended_eq, open_, Bool.false_eq_true, if_false]
          obtain ⟨later_state, later_sent, later_result⟩ := inductionHypothesis
            (fun other member => unended other (List.mem_cons_of_mem element member))
            (respond operator element state).state
            (handle operator true element.1 state stats (.element element.2)).stats
            ((handle operator true element.1 state stats (.element element.2)).sent.reverse ++ sent)
          rw [state_eq]
          refine ⟨later_state, later_sent.trans ?_, later_result⟩
          rw [sent_eq, List.reverse_append, List.reverse_reverse, List.append_assoc]
          rfl

theorem respondAll_append
    (operator : Operator σ ι ο)
    (first second : List (Instant × Element ι))
    (state : σ) :
    respondAll operator (first ++ second) state =
      (respondAll operator first state).andThen (respondAll operator second) :=
  each_append _ first second state

theorem exists_append_finished
    {timed : List (Instant × Element ι)}
    {body : List (Element ι)}
    (unended : ∀ element ∈ body, element.isFinished = false)
    (ends : timed.map Prod.snd = body ++ [.finished]) :
    ∃ front now, timed = front ++ [(now, .finished)] ∧
      ∀ element ∈ front, element.2.isFinished = false := by
  obtain ⟨front, back, rfl, carriesBody, carriesEnd⟩ := List.map_eq_append_iff.mp ends
  obtain ⟨⟨now, element⟩, rest, rfl, isEnd, nothing⟩ := List.map_eq_cons_iff.mp carriesEnd
  obtain rfl := List.map_eq_nil_iff.mp nothing
  obtain rfl : element = .finished := isEnd
  refine ⟨front, now, rfl, ?_⟩
  intro element member
  apply unended
  rw [← carriesBody]
  exact List.mem_map_of_mem member

/-- Where and when a task runs, and what reaches it. -/
structure Shift (ι : Type) where
  /-- The subtask for which the operator is opened. -/
  subtask : Subtask
  /-- When the operator is opened. -/
  opened : Instant
  /-- When the operator is closed. -/
  closed : Instant
  /-- The elements, each at its time. -/
  timed : List (Instant × Element ι)

/-- The elements without their times. -/
def Shift.elements (shift : Shift ι) : List (Element ι) :=
  shift.timed.map Prod.snd

/-- What a task does whose receiver stays. -/
def Shift.run (shift : Shift ι) (operator : Operator σ ι ο) (state : σ) : Run σ ι ο :=
  Task.run operator shift.subtask shift.opened shift.closed true (arrivals shift.timed) state

/-- What a task does to elements that end with the mark of the end, as responses between
opening and closing. -/
structure Shift.Responds
    (shift : Shift ι)
    (operator : Operator σ ι ο)
    (state : σ) : Prop where
  /-- The state is the closed one after all responses. -/
  state_eq : (shift.run operator state).state =
    (operator.stop shift.closed (respondAll operator shift.timed
      (operator.start shift.opened shift.subtask state).state).state).state
  /-- What is sent are the responses. -/
  sent_eq : (shift.run operator state).sent =
    (respondAll operator shift.timed (operator.start shift.opened shift.subtask state).state).emitted
  /-- The task succeeds if all responses do. -/
  succeeds_iff : (shift.run operator state).result = .ok () ↔
    (respondAll operator shift.timed
      (operator.start shift.opened shift.subtask state).state).result = .ok ()

theorem Shift.responds
    {operator : Operator σ ι ο}
    {shift : Shift ι}
    {state : σ}
    (opens : (operator.start shift.opened shift.subtask state).result = .ok ())
    (closes : ∀ state, (operator.stop shift.closed state).result = .ok ())
    {body : List (Element ι)}
    (unended : ∀ element ∈ body, element.isFinished = false)
    (ends : shift.elements = body ++ [.finished]) :
    shift.Responds operator state := by
  obtain ⟨front, now, timed_eq, open_⟩ := exists_append_finished unended ends
  obtain ⟨state_eq, sent_eq, result_eq⟩ := loopFrom_arrivals operator open_ now
    (operator.start shift.opened shift.subtask state).state {} []
  rw [← timed_eq] at state_eq sent_eq result_eq
  refine ⟨?_, ?_, ?_⟩
  · simp only [Shift.run, Task.run, opens, loop, state_eq]
  · simp only [Shift.run, Task.run, opens, loop]
    exact sent_eq
  · simp only [Shift.run, Task.run, opens, loop, closes, ← result_eq]
    cases (loopFrom operator true (operator.start shift.opened shift.subtask state).state {} []
        (arrivals shift.timed)).result with
    | error error => simp
    | ok value => simp

/-! ## Marks of the end -/

theorem unended_announced
    (step : Step σ ο)
    {mark : Option (Element ο)}
    (unended : ∀ element ∈ mark, element.isFinished = false) :
    ∀ element ∈ (step.announced mark).emitted, element.isFinished = false := by
  intro element member
  cases result : step.result with
  | error error => simp [announced, result] at member
  | ok value =>
      rw [announced_of_ok result, List.mem_append, List.mem_map, Option.mem_toList] at member
      rcases member with ⟨value, _, rfl⟩ | marked
      · rfl
      · exact unended element marked

/-- Nothing but the mark of the end is answered by such a mark. -/
theorem unended_respondAll
    (operator : Operator σ ι ο)
    {body : List (Instant × Element ι)}
    (unended : ∀ element ∈ body, element.2.isFinished = false)
    (state : σ) :
    ∀ element ∈ (respondAll operator body state).emitted, element.isFinished = false := by
  induction body generalizing state with
  | nil => exact fun element member => absurd member List.not_mem_nil
  | cons head rest inductionHypothesis =>
      have answered : ∀ element ∈ (respond operator head state).emitted,
          element.isFinished = false := by
        have open_ := unended head List.mem_cons_self
        obtain ⟨now, element⟩ := head
        cases element with
        | record value time => exact unended_announced _ (by simp)
        | watermark time => exact unended_announced _ (by simp [Element.isFinished])
        | finished => exact absurd open_ (by simp [Element.isFinished])
      intro element member
      rw [respondAll, each_cons] at member
      cases result : (respond operator head state).result with
      | error error =>
          rw [andThen_of_error result] at member
          exact answered element member
      | ok value =>
          rw [andThen_of_ok result, List.mem_append] at member
          rcases member with first | later
          · exact answered element first
          · exact inductionHypothesis
              (fun other among => unended other (List.mem_cons_of_mem head among)) _ element later

/-- A task that succeeds sends the mark of the end once, behind everything else. -/
theorem emitted_respondAll_of_ok
    {operator : Operator σ ι ο}
    {timed : List (Instant × Element ι)}
    {body : List (Element ι)}
    (unended : ∀ element ∈ body, element.isFinished = false)
    (ends : timed.map Prod.snd = body ++ [.finished])
    {state : σ}
    (succeeds : (respondAll operator timed state).result = .ok ()) :
    ∃ front, (respondAll operator timed state).emitted = front ++ [.finished] ∧
      ∀ element ∈ front, element.isFinished = false := by
  obtain ⟨front, now, rfl, open_⟩ := exists_append_finished unended ends
  rw [respondAll_append] at succeeds ⊢
  obtain ⟨first, last⟩ := (result_andThen_eq_ok_iff _ _).mp succeeds
  have finishes : respondAll operator [(now, .finished)] (respondAll operator front state).state =
      (operator.finish now (respondAll operator front state).state).announced (some .finished) :=
    each_singleton _ _ _
  rw [finishes, result_announced] at last
  rw [andThen_of_ok first, finishes, announced_of_ok last, Option.toList_some]
  refine ⟨_, (List.append_assoc _ _ _).symm, ?_⟩
  intro element member
  rcases List.mem_append.mp member with earlier | released
  · exact unended_respondAll operator open_ state element earlier
  · obtain ⟨value, _, rfl⟩ := List.mem_map.mp released
    rfl

end Task
end PreAggregation
