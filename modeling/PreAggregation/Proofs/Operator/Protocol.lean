import PreAggregation.Proofs.Operator.Buffering

/-!
# How a task deals with each outcome

Every hook of an operator may fail.  Up to the first hook that does, a task answers each
element by the outputs of its hook and then, if the element is a mark, by the mark.  The
loop ends at the first failure, at the mark of the end, or where the senders are gone;
what is behind that is not taken.  An operator that was opened is closed once.
-/

namespace PreAggregation

namespace Element

variable {α : Type}

/-- Whether an element is a record. -/
def isRecord : Element α → Bool
  | .record .. => true
  | .watermark _ | .finished => false

/-- Whether an element is a watermark. -/
def isWatermark : Element α → Bool
  | .watermark _ => true
  | .record .. | .finished => false

/-- What is passed on of an element itself. -/
def mark {β : Type} : Element α → List (Element β)
  | .record .. => []
  | .watermark time => [.watermark time]
  | .finished => [.finished]

end Element

namespace Task

variable {σ ι ο : Type}

/-- The hook to which an element is handed. -/
def hook
    (operator : Operator σ ι ο)
    (timed : Instant × Element ι)
    (state : σ) : Step σ ο :=
  match timed.2 with
  | .record value _ => operator.process timed.1 [value] state
  | .watermark time => operator.timer timed.1 .eventTime time state
  | .finished => operator.finish timed.1 state

/-- What is sent for an element whose hook succeeds: the outputs, and then the mark. -/
def answer
    (operator : Operator σ ι ο)
    (timed : Instant × Element ι)
    (state : σ) : List (Element ο) :=
  (hook operator timed state).emitted.map (Element.record · none) ++ timed.2.mark

/-- What a task counts that took some elements and sent others. -/
def tally
    (consumed : List (Instant × Element ι))
    (sent : List (Element ο)) : TaskStats where
  recordsIn := consumed.countP fun timed => timed.2.isRecord
  recordsOut := sent.countP Element.isRecord
  watermarks := consumed.countP fun timed => timed.2.isWatermark

/-- Elements before the mark of the end whose hooks all succeed, from one state of the
operator to another, with what is sent for them. -/
inductive Passes (operator : Operator σ ι ο) :
    σ → List (Instant × Element ι) → List (Element ο) → σ → Prop
  | nil (state : σ) : Passes operator state [] [] state
  | cons {state final : σ} {timed : Instant × Element ι} {rest : List (Instant × Element ι)}
      {sent : List (Element ο)} :
      timed.2.isFinished = false →
      (hook operator timed state).result = .ok () →
      Passes operator (hook operator timed state).state rest sent final →
      Passes operator state (timed :: rest) (answer operator timed state ++ sent) final

/-- How the loop of a task ends, with the elements that it consumed and those that it left
alone. -/
inductive Ends (operator : Operator σ ι ο) (state : σ) :
    List (Instant × Element ι) → List (Instant × Element ι) → Run σ ι ο → Prop
  /-- The senders are gone. -/
  | disconnected {consumed : List (Instant × Element ι)} {sent : List (Element ο)} {final : σ} :
      Passes operator state consumed sent final →
      Ends operator state consumed []
        ⟨final, tally consumed sent, sent, [], .error ⟨.channel .sendersGone, []⟩⟩
  /-- A hook fails.  Nothing is sent for its element. -/
  | failed {front : List (Instant × Element ι)} {sent : List (Element ο)} {final : σ}
      {timed : Instant × Element ι} {error : Error} (rest : List (Instant × Element ι)) :
      Passes operator state front sent final →
      (hook operator timed final).result = .error error →
      Ends operator state (front ++ [timed]) rest
        ⟨(hook operator timed final).state, tally (front ++ [timed]) sent, sent, arrivals rest,
          .error error⟩
  /-- The mark of the end is answered. -/
  | ended {front : List (Instant × Element ι)} {sent : List (Element ο)} {final : σ}
      {now : Instant} (rest : List (Instant × Element ι)) :
      Passes operator state front sent final →
      (hook operator (now, .finished) final).result = .ok () →
      Ends operator state (front ++ [(now, .finished)]) rest
        ⟨(hook operator (now, .finished) final).state,
          tally (front ++ [(now, .finished)]) (sent ++ answer operator (now, .finished) final),
          sent ++ answer operator (now, .finished) final, arrivals rest, .ok ()⟩

/-! ## The loop -/

section Loop

variable {operator : Operator σ ι ο} {timed : Instant × Element ι} {state : σ}

theorem tally_concat
    (consumed : List (Instant × Element ι))
    (timed : Instant × Element ι)
    (sent more : List (Element ο)) :
    tally (consumed ++ [timed]) (sent ++ more) =
      { recordsIn := (tally consumed sent).recordsIn + if timed.2.isRecord then 1 else 0
        recordsOut := (tally consumed sent).recordsOut + more.countP Element.isRecord
        watermarks := (tally consumed sent).watermarks + if timed.2.isWatermark then 1 else 0 } := by
  simp only [tally, List.countP_append, List.countP_singleton]

theorem countP_isRecord_answer
    (operator : Operator σ ι ο)
    (timed : Instant × Element ι)
    (state : σ) :
    (answer operator timed state).countP Element.isRecord =
      (hook operator timed state).emitted.length := by
  have outputs : ((hook operator timed state).emitted.map (Element.record · none)).countP
      Element.isRecord = (hook operator timed state).emitted.length := by
    rw [List.countP_map]
    exact List.countP_eq_length.mpr fun _ _ => rfl
  have marks : (timed.2.mark : List (Element ο)).countP Element.isRecord = 0 := by
    cases timed.2 <;> rfl
  rw [answer, List.countP_append, outputs, marks, Nat.add_zero]

/-- An element whose hook succeeds is answered. -/
theorem handle_of_ok
    (succeeds : (hook operator timed state).result = .ok ())
    (consumed : List (Instant × Element ι))
    (sent : List (Element ο)) :
    handle operator true timed.1 state (tally consumed sent) (.element timed.2) =
      { state := (hook operator timed state).state
        stats := tally (consumed ++ [timed]) (sent ++ answer operator timed state)
        sent := answer operator timed state
        ended := timed.2.isFinished } := by
  rw [tally_concat, countP_isRecord_answer]
  obtain ⟨now, element⟩ := timed
  cases element with
  | record value time =>
      have processed : (operator.process now [value] state).result = .ok () := succeeds
      simp only [handle, forward, processed]
      rfl
  | watermark time =>
      have fired : (operator.timer now .eventTime time state).result = .ok () := succeeds
      simp only [handle, forward, fired]
      rfl
  | finished =>
      have finished : (operator.finish now state).result = .ok () := succeeds
      simp only [handle, forward, finished]
      rfl

/-- An element whose hook fails is counted, and nothing is sent for it. -/
theorem handle_of_error
    {error : Error}
    (fails : (hook operator timed state).result = .error error)
    (consumed : List (Instant × Element ι))
    (sent : List (Element ο)) :
    handle operator true timed.1 state (tally consumed sent) (.element timed.2) =
      { state := (hook operator timed state).state
        stats := tally (consumed ++ [timed]) sent
        result := .error error
        ended := timed.2.isFinished } := by
  rw [← List.append_nil sent, tally_concat, List.append_nil]
  obtain ⟨now, element⟩ := timed
  cases element with
  | record value time =>
      have processed : (operator.process now [value] state).result = .error error := fails
      simp only [handle, forward, processed]
      rfl
  | watermark time =>
      have fired : (operator.timer now .eventTime time state).result = .error error := fails
      simp only [handle, forward, fired]
      rfl
  | finished =>
      have finished : (operator.finish now state).result = .error error := fails
      simp only [handle, forward, finished]
      rfl

/-- The loop goes on behind elements that pass. -/
theorem Passes.loopFrom_eq
    {final : σ}
    {front : List (Instant × Element ι)}
    {more : List (Element ο)}
    (passes : Passes operator state front more final)
    (before rest : List (Instant × Element ι))
    (sent : List (Element ο)) :
    loopFrom operator true state (tally before sent) sent.reverse (arrivals (front ++ rest)) =
      loopFrom operator true final (tally (before ++ front) (sent ++ more)) (sent ++ more).reverse
        (arrivals rest) := by
  induction passes generalizing before sent with
  | nil state => rw [List.append_nil, List.append_nil, List.nil_append]
  | @cons state final timed others more unended succeeds _ inductionHypothesis =>
      rw [List.append_cons before, ← List.append_assoc sent,
        ← inductionHypothesis (before ++ [timed]) (sent ++ answer operator timed state)]
      simp only [List.cons_append, arrivals, List.map_cons, loopFrom,
        handle_of_ok succeeds before sent, unended, Bool.false_eq_true, if_false,
        List.reverse_append]

theorem Ends.loop_eq
    {consumed rest : List (Instant × Element ι)}
    {looped : Run σ ι ο}
    (ends : Ends operator state consumed rest looped) :
    loop operator true state (arrivals (consumed ++ rest)) = looped := by
  cases ends with
  | disconnected passes =>
      have looped := passes.loopFrom_eq [] [] []
      simp only [List.nil_append, arrivals, List.map_nil, loopFrom, List.reverse_reverse] at looped
      exact looped
  | @failed front sent final timed error rest passes fails =>
      have looped := passes.loopFrom_eq [] (timed :: rest) []
      simp only [List.nil_append, arrivals, List.map_cons, loopFrom,
        handle_of_error fails front sent, List.reverse_nil, List.reverse_reverse] at looped
      rw [List.append_assoc]
      exact looped
  | @ended front sent final now rest passes succeeds =>
      have looped := passes.loopFrom_eq [] ((now, .finished) :: rest) []
      have handled := handle_of_ok succeeds front sent
      simp only [List.nil_append, arrivals, List.map_cons, loopFrom, handled, Element.isFinished,
        if_true, List.reverse_append, List.reverse_reverse] at looped
      rw [List.append_assoc]
      exact looped

/-- An element that passes can stand in front of any end. -/
theorem Ends.exists_cons
    {consumed rest : List (Instant × Element ι)}
    {looped : Run σ ι ο}
    (unended : timed.2.isFinished = false)
    (succeeds : (hook operator timed state).result = .ok ())
    (ends : Ends operator (hook operator timed state).state consumed rest looped) :
    ∃ looped, Ends operator state (timed :: consumed) rest looped := by
  cases ends with
  | disconnected passes => exact ⟨_, .disconnected (.cons unended succeeds passes)⟩
  | failed rest passes fails => exact ⟨_, .failed rest (.cons unended succeeds passes) fails⟩
  | ended rest passes finished => exact ⟨_, .ended rest (.cons unended succeeds passes) finished⟩

/-- Every loop ends. -/
theorem exists_ends
    (operator : Operator σ ι ο)
    (state : σ)
    (timed : List (Instant × Element ι)) :
    ∃ consumed rest looped, timed = consumed ++ rest ∧
      Ends operator state consumed rest looped := by
  induction timed generalizing state with
  | nil => exact ⟨[], [], _, rfl, .disconnected (.nil state)⟩
  | cons head others inductionHypothesis =>
      cases result : (hook operator head state).result with
      | error error => exact ⟨[head], others, _, rfl, .failed others (.nil state) result⟩
      | ok value =>
          cases finishes : head.2.isFinished with
          | true =>
              obtain ⟨now, element⟩ := head
              cases element with
              | finished => exact ⟨[(now, .finished)], others, _, rfl, .ended others (.nil state) result⟩
              | record value time => exact absurd finishes (by simp [Element.isFinished])
              | watermark time => exact absurd finishes (by simp [Element.isFinished])
          | false =>
              obtain ⟨consumed, rest, looped, rfl, ends⟩ :=
                inductionHypothesis (hook operator head state).state
              obtain ⟨longer, ends⟩ := ends.exists_cons finishes result
              exact ⟨head :: consumed, rest, longer, rfl, ends⟩

end Loop

/-! ## The mark of the end -/

section Marks

variable {operator : Operator σ ι ο} {state : σ}

theorem unended_answer
    {timed : Instant × Element ι}
    (unended : timed.2.isFinished = false)
    (state : σ) :
    .finished ∉ answer operator timed state := by
  intro member
  rcases List.mem_append.mp member with output | marked
  · obtain ⟨value, _, equal⟩ := List.mem_map.mp output
    exact absurd equal (by simp)
  · obtain ⟨now, element⟩ := timed
    cases element with
    | record value time => exact absurd marked List.not_mem_nil
    | watermark time => exact absurd (List.mem_singleton.mp marked) (by simp)
    | finished => exact absurd unended (by simp [Element.isFinished])

theorem Passes.unended
    {final : σ}
    {front : List (Instant × Element ι)}
    {sent : List (Element ο)}
    (passes : Passes operator state front sent final) :
    .finished ∉ sent := by
  induction passes with
  | nil => exact List.not_mem_nil
  | cons unended _ _ inductionHypothesis =>
      intro member
      rcases List.mem_append.mp member with first | later
      · exact unended_answer unended _ first
      · exact inductionHypothesis later

/-- The mark of the end is sent by a loop that succeeds, once and behind everything else,
and by no other. -/
theorem Ends.finished
    {consumed rest : List (Instant × Element ι)}
    {looped : Run σ ι ο}
    (ends : Ends operator state consumed rest looped) :
    (looped.result = .ok () ∧ ∃ before, looped.sent = before ++ [.finished] ∧ .finished ∉ before) ∨
      ((∃ error, looped.result = .error error) ∧ .finished ∉ looped.sent) := by
  cases ends with
  | disconnected passes => exact .inr ⟨⟨_, rfl⟩, passes.unended⟩
  | failed rest passes fails => exact .inr ⟨⟨_, rfl⟩, passes.unended⟩
  | @ended front sent final now rest passes succeeds =>
      refine .inl ⟨rfl, sent ++ (hook operator (now, .finished) final).emitted.map
        (Element.record · none), (List.append_assoc _ _ _).symm, ?_⟩
      intro member
      rcases List.mem_append.mp member with earlier | output
      · exact passes.unended earlier
      · obtain ⟨value, _, equal⟩ := List.mem_map.mp output
        exact absurd equal (by simp)

end Marks

/-! ## Calls -/

end Task

/-- A call of a hook. -/
inductive HookCall (ι : Type)
  | start
  | process (records : List ι)
  | timer (domain : TimerDomain) (time : Int)
  | finish
  | stop
  deriving DecidableEq

/-- The operator with a list of the calls of its hooks. -/
def Operator.logged
    {σ ι ο : Type}
    (operator : Operator σ ι ο) : Operator (σ × List (HookCall ι)) ι ο where
  start now subtask state :=
    let attempt := operator.start now subtask state.1
    { state := (attempt.state, state.2 ++ [.start]), result := attempt.result }
  process now records state :=
    (operator.process now records state.1).mapState (·, state.2 ++ [.process records])
  timer now domain time state :=
    (operator.timer now domain time state.1).mapState (·, state.2 ++ [.timer domain time])
  finish now state := (operator.finish now state.1).mapState (·, state.2 ++ [.finish])
  stop now state :=
    let attempt := operator.stop now state.1
    { state := (attempt.state, state.2 ++ [.stop]), result := attempt.result }

namespace Task

variable {σ ι ο : Type}

/-- The call of a hook that an element brings. -/
def callOf (timed : Instant × Element ι) : HookCall ι :=
  match timed.2 with
  | .record value _ => .process [value]
  | .watermark time => .timer .eventTime time
  | .finished => .finish

section Logs

variable {operator : Operator σ ι ο} {state : σ}

theorem hook_logged
    (operator : Operator σ ι ο)
    (timed : Instant × Element ι)
    (state : σ)
    (log : List (HookCall ι)) :
    hook operator.logged timed (state, log) =
      (hook operator timed state).mapState (·, log ++ [callOf timed]) := by
  obtain ⟨now, element⟩ := timed
  cases element <;> rfl

theorem result_hook_logged
    (operator : Operator σ ι ο)
    (timed : Instant × Element ι)
    (state : σ)
    (log : List (HookCall ι)) :
    (hook operator.logged timed (state, log)).result = (hook operator timed state).result := by
  rw [hook_logged]
  rfl

theorem answer_logged
    (operator : Operator σ ι ο)
    (timed : Instant × Element ι)
    (state : σ)
    (log : List (HookCall ι)) :
    answer operator.logged timed (state, log) = answer operator timed state := by
  rw [answer, hook_logged]
  rfl

theorem Passes.logged
    {final : σ}
    {front : List (Instant × Element ι)}
    {sent : List (Element ο)}
    (passes : Passes operator state front sent final)
    (log : List (HookCall ι)) :
    Passes operator.logged (state, log) front sent (final, log ++ front.map callOf) := by
  induction passes generalizing log with
  | nil state =>
      rw [List.map_nil, List.append_nil]
      exact .nil _
  | @cons state final timed others more unended succeeds _ inductionHypothesis =>
      have later := inductionHypothesis (log ++ [callOf timed])
      have called := hook_logged operator timed state log
      rw [List.append_assoc, List.singleton_append, ← List.map_cons] at later
      rw [← answer_logged operator timed state log]
      apply Passes.cons unended
      · rw [result_hook_logged]
        exact succeeds
      · rw [called]
        exact later

theorem Ends.rest_eq
    {consumed rest : List (Instant × Element ι)}
    {looped : Run σ ι ο}
    (ends : Ends operator state consumed rest looped) :
    looped.rest = arrivals rest := by
  cases ends with
  | disconnected passes => rfl
  | failed rest passes fails => rfl
  | ended rest passes succeeds => rfl

theorem Ends.stats_eq
    {consumed rest : List (Instant × Element ι)}
    {looped : Run σ ι ο}
    (ends : Ends operator state consumed rest looped) :
    looped.stats = tally consumed looped.sent := by
  cases ends with
  | disconnected passes => rfl
  | failed rest passes fails => rfl
  | ended rest passes succeeds => rfl

/-- The hooks of the elements that are consumed are called, and no others. -/
theorem Ends.logged
    {consumed rest : List (Instant × Element ι)}
    {looped : Run σ ι ο}
    (ends : Ends operator state consumed rest looped)
    (log : List (HookCall ι)) :
    Ends operator.logged (state, log) consumed rest
      ⟨(looped.state, log ++ consumed.map callOf), looped.stats, looped.sent, arrivals rest,
        looped.result⟩ := by
  cases ends with
  | disconnected passes => exact .disconnected (passes.logged log)
  | @failed front sent final timed error rest passes fails =>
      have called := hook_logged operator timed final (log ++ front.map callOf)
      have logged := Ends.failed rest (passes.logged log)
        ((result_hook_logged operator timed final _).trans fails)
      rw [called] at logged
      rw [List.map_append, List.map_singleton, ← List.append_assoc]
      exact logged
  | @ended front sent final now rest passes succeeds =>
      have called := hook_logged operator (now, .finished) final (log ++ front.map callOf)
      have logged := Ends.ended rest (passes.logged log)
        ((result_hook_logged operator (now, .finished) final _).trans succeeds)
      rw [called, answer_logged] at logged
      rw [List.map_append, List.map_singleton, ← List.append_assoc]
      exact logged

end Logs

/-! ## Whole runs -/

/-- What a task tells whose loop and whose closing came out like this. -/
def outcome
    (subtask : Subtask) :
    Except Error Unit → Except Error Unit → Except Error Unit
  | .error error, _ => .error (error.within (.task .running subtask))
  | .ok (), .error error => .error (error.within (.task .closing subtask))
  | .ok (), .ok () => .ok ()

theorem outcome_eq_ok_iff
    (subtask : Subtask)
    (looped stopped : Except Error Unit) :
    outcome subtask looped stopped = .ok () ↔ looped = .ok () ∧ stopped = .ok () := by
  cases looped with
  | error error => simp [outcome]
  | ok value =>
      cases stopped with
      | error error => simp [outcome]
      | ok value => simp [outcome]

/-- What opening makes of the operator. -/
def Shift.start
    (shift : Shift ι)
    (operator : Operator σ ι ο)
    (state : σ) : Attempt σ :=
  operator.start shift.opened shift.subtask state

/-- The loop behind opening. -/
def Shift.loop
    (shift : Shift ι)
    (operator : Operator σ ι ο)
    (state : σ) : Run σ ι ο :=
  Task.loop operator true (shift.start operator state).state (arrivals shift.timed)

/-- What closing makes of the operator behind the loop. -/
def Shift.stop
    (shift : Shift ι)
    (operator : Operator σ ι ο)
    (state : σ) : Attempt σ :=
  operator.stop shift.closed (shift.loop operator state).state

theorem Shift.run_of_ok
    {shift : Shift ι}
    {operator : Operator σ ι ο}
    {state : σ}
    (opens : (shift.start operator state).result = .ok ()) :
    shift.run operator state =
      { shift.loop operator state with
        state := (shift.stop operator state).state
        result := outcome shift.subtask (shift.loop operator state).result
          (shift.stop operator state).result } := by
  rw [Shift.start] at opens
  simp only [Shift.run, Task.run, opens]
  unfold outcome
  rfl

theorem Shift.run_of_error
    {shift : Shift ι}
    {operator : Operator σ ι ο}
    {state : σ}
    {error : Error}
    (fails : (shift.start operator state).result = .error error) :
    shift.run operator state =
      ⟨(shift.start operator state).state, {}, [], arrivals shift.timed,
        .error (error.within (.task .opening shift.subtask))⟩ := by
  rw [Shift.start] at fails
  simp only [Shift.run, Task.run, fails]
  rfl

/-- The mark of the end arrives behind elements that pass, and its hook succeeds. -/
def Shift.Finishes
    (shift : Shift ι)
    (operator : Operator σ ι ο)
    (state : σ) : Prop :=
  ∃ front now rest sent final, shift.timed = front ++ (now, .finished) :: rest ∧
    Passes operator (shift.start operator state).state front sent final ∧
    (operator.finish now final).result = .ok ()

/-- What a task whose receiver stays does on every outcome of the hooks. -/
structure Shift.FollowsProtocol
    (shift : Shift ι)
    (operator : Operator σ ι ο)
    (state : σ) : Prop where
  /-- Behind an opening that failed nothing is consumed, sent or closed. -/
  run_of_unopened : ∀ error, (shift.start operator state).result = .error error →
    shift.run operator state =
      ⟨(shift.start operator state).state, {}, [], arrivals shift.timed,
        .error (error.within (.task .opening shift.subtask))⟩
  /-- Behind an opening that succeeded the loop runs to its end, and then the operator is
  closed.  The failure of the loop is told rather than that of closing. -/
  run_of_opened : (shift.start operator state).result = .ok () →
    (∃ consumed rest, shift.timed = consumed ++ rest ∧
      Ends operator (shift.start operator state).state consumed rest
        (shift.loop operator state)) ∧
    shift.run operator state =
      { shift.loop operator state with
        state := (shift.stop operator state).state
        result := outcome shift.subtask (shift.loop operator state).result
          (shift.stop operator state).result }
  /-- The hooks that are called: that of opening, behind it those of the elements that are
  consumed, one call each, and last that of closing, once. -/
  calls : ∃ consumed rest, shift.timed = consumed ++ rest ∧
    (shift.run operator state).rest = arrivals rest ∧
    shift.run operator.logged (state, []) =
      ⟨((shift.run operator state).state,
          match (shift.start operator state).result with
          | .error _ => [.start]
          | .ok () => .start :: consumed.map callOf ++ [.stop]),
        (shift.run operator state).stats, (shift.run operator state).sent, arrivals rest,
        (shift.run operator state).result⟩
  /-- It makes no difference if all hooks share a buffer. -/
  loop_of_writer : ∀ writer : Writer σ ι ο, writer.operator = operator →
    writer.loopFrom (shift.start operator state).state [] {} [] shift.timed =
      shift.loop operator state
  /-- The mark of the end is sent just if it arrives and no hook up to there fails. -/
  mem_finished_iff : .finished ∈ (shift.run operator state).sent ↔
    (shift.start operator state).result = .ok () ∧ shift.Finishes operator state
  /-- The mark of the end is sent once, behind everything else. -/
  finished_last : ∀ before after,
    (shift.run operator state).sent = before ++ .finished :: after →
    .finished ∉ before ∧ after = []
  /-- A task succeeds if opening, the loop and closing do. -/
  result_eq_ok_iff : (shift.run operator state).result = .ok () ↔
    (shift.start operator state).result = .ok () ∧ shift.Finishes operator state ∧
      (shift.stop operator state).result = .ok ()
  /-- A task that succeeds has counted what it consumed and what it sent. -/
  stats_of_ok : (shift.run operator state).result = .ok () →
    ∃ consumed rest, shift.timed = consumed ++ rest ∧
      (shift.run operator state).rest = arrivals rest ∧
      (shift.run operator state).stats = tally consumed (shift.run operator state).sent

/-- The loop finds its end, and the elements up to there are those that it consumes. -/
theorem Shift.exists_ends
    (shift : Shift ι)
    (operator : Operator σ ι ο)
    (state : σ) :
    ∃ consumed rest, shift.timed = consumed ++ rest ∧
      Ends operator (shift.start operator state).state consumed rest
        (shift.loop operator state) := by
  obtain ⟨consumed, rest, looped, divided, ends⟩ :=
    Task.exists_ends operator (shift.start operator state).state shift.timed
  refine ⟨consumed, rest, divided, ?_⟩
  rw [Shift.loop, divided, ends.loop_eq]
  exact ends

theorem Shift.finishes_iff
    (shift : Shift ι)
    (operator : Operator σ ι ο)
    (state : σ) :
    shift.Finishes operator state ↔ (shift.loop operator state).result = .ok () := by
  constructor
  · rintro ⟨front, now, rest, sent, final, divided, passes, succeeds⟩
    have ends := Ends.ended rest passes succeeds
    have looped := ends.loop_eq
    rw [List.append_assoc, List.singleton_append, ← divided] at looped
    rw [Shift.loop, looped]
  · intro succeeds
    obtain ⟨consumed, rest, divided, ends⟩ := shift.exists_ends operator state
    generalize shift.loop operator state = looped at succeeds ends
    cases ends with
    | disconnected passes => exact absurd succeeds (by simp)
    | failed rest passes fails => exact absurd succeeds (by simp)
    | @ended front sent final now rest passes finished =>
        refine ⟨front, now, rest, sent, final, ?_, passes, finished⟩
        rw [divided, List.append_assoc, List.singleton_append]

theorem Shift.run_logged
    {shift : Shift ι}
    {operator : Operator σ ι ο}
    {state : σ}
    {consumed rest : List (Instant × Element ι)}
    (opens : (shift.start operator state).result = .ok ())
    (divided : shift.timed = consumed ++ rest)
    (ends : Ends operator (shift.start operator state).state consumed rest
      (shift.loop operator state)) :
    shift.run operator.logged (state, []) =
      ⟨((shift.stop operator state).state, .start :: consumed.map callOf ++ [.stop]),
        (shift.loop operator state).stats, (shift.loop operator state).sent, arrivals rest,
        outcome shift.subtask (shift.loop operator state).result
          (shift.stop operator state).result⟩ := by
  have looped := (ends.logged [.start]).loop_eq
  rw [← divided] at looped
  have unfolded : shift.loop operator.logged (state, []) =
      Task.loop operator.logged true ((shift.start operator state).state, [.start])
        (arrivals shift.timed) := rfl
  rw [looped] at unfolded
  have opensLogged : (shift.start operator.logged (state, [])).result = .ok () := opens
  rw [run_of_ok opensLogged]
  simp only [Shift.stop, unfolded]
  rfl

theorem Shift.calls_logged
    (shift : Shift ι)
    (operator : Operator σ ι ο)
    (state : σ) :
    ∃ consumed rest, shift.timed = consumed ++ rest ∧
      (shift.run operator state).rest = arrivals rest ∧
      shift.run operator.logged (state, []) =
        ⟨((shift.run operator state).state,
            match (shift.start operator state).result with
            | .error _ => [.start]
            | .ok () => .start :: consumed.map callOf ++ [.stop]),
          (shift.run operator state).stats, (shift.run operator state).sent, arrivals rest,
          (shift.run operator state).result⟩ := by
  cases opened : (shift.start operator state).result with
  | error error =>
      refine ⟨[], shift.timed, rfl, ?_, ?_⟩
      · rw [run_of_error opened]
      · have failsLogged : (shift.start operator.logged (state, [])).result = .error error := opened
        rw [run_of_error failsLogged, run_of_error opened]
        rfl
  | ok value =>
      obtain ⟨consumed, rest, divided, ends⟩ := shift.exists_ends operator state
      refine ⟨consumed, rest, divided, ?_, ?_⟩
      · rw [run_of_ok opened]
        exact ends.rest_eq
      · rw [run_logged opened divided ends, run_of_ok opened]

theorem Shift.mem_finished_iff
    (shift : Shift ι)
    (operator : Operator σ ι ο)
    (state : σ) :
    .finished ∈ (shift.run operator state).sent ↔
      (shift.start operator state).result = .ok () ∧ shift.Finishes operator state := by
  rw [shift.finishes_iff]
  cases opened : (shift.start operator state).result with
  | error error =>
      rw [run_of_error opened]
      simp
  | ok value =>
      obtain ⟨consumed, rest, _, ends⟩ := shift.exists_ends operator state
      rw [run_of_ok opened]
      rcases ends.finished with ⟨succeeds, before, sent, _⟩ | ⟨⟨error, fails⟩, unended⟩
      · simp [succeeds, sent]
      · simp [fails, unended]

theorem Shift.finished_last
    {shift : Shift ι}
    {operator : Operator σ ι ο}
    {state : σ}
    {before after : List (Element ο)}
    (sends : (shift.run operator state).sent = before ++ .finished :: after) :
    .finished ∉ before ∧ after = [] := by
  have member : .finished ∈ (shift.run operator state).sent := by simp [sends]
  have opens := ((shift.mem_finished_iff operator state).mp member).1
  rw [run_of_ok opens] at sends member
  obtain ⟨consumed, rest, _, ends⟩ := shift.exists_ends operator state
  rcases ends.finished with ⟨_, front, sent, unended⟩ | ⟨_, unended⟩
  · rw [sent] at sends
    rcases List.append_eq_append_iff.mp sends with ⟨between, rfl, last⟩ | ⟨between, rfl, last⟩
    · rcases List.cons_eq_append_iff.mp last with ⟨rfl, last⟩ | ⟨others, _, nothing⟩
      · obtain ⟨_, rfl⟩ := List.cons.inj last
        exact ⟨by simpa using unended, rfl⟩
      · exact absurd nothing (by simp)
    · cases between with
      | nil =>
          obtain ⟨_, rfl⟩ := List.cons.inj last
          exact ⟨by simpa using unended, rfl⟩
      | cons first others =>
          obtain ⟨rfl, _⟩ := List.cons.inj last
          exact absurd (by simp) unended
  · exact absurd member unended

/-- A task follows its protocol, whatever the operator is and whatever arrives. -/
theorem shift_followsProtocol
    (shift : Shift ι)
    (operator : Operator σ ι ο)
    (state : σ) :
    shift.FollowsProtocol operator state where
  run_of_unopened error fails := Shift.run_of_error fails
  run_of_opened opens := ⟨shift.exists_ends operator state, Shift.run_of_ok opens⟩
  calls := shift.calls_logged operator state
  loop_of_writer := by
    rintro writer rfl
    exact writer.loopFrom_nil _ _ _ _
  mem_finished_iff := shift.mem_finished_iff operator state
  finished_last before after sends := Shift.finished_last sends
  result_eq_ok_iff := by
    rw [shift.finishes_iff]
    cases opened : (shift.start operator state).result with
    | error error =>
        rw [Shift.run_of_error opened]
        simp
    | ok value =>
        rw [Shift.run_of_ok opened, outcome_eq_ok_iff]
        simp
  stats_of_ok succeeds := by
    obtain ⟨consumed, rest, divided, ends⟩ := shift.exists_ends operator state
    refine ⟨consumed, rest, divided, ?_⟩
    cases opened : (shift.start operator state).result with
    | error error =>
        rw [Shift.run_of_error opened] at succeeds
        exact absurd succeeds (by simp)
    | ok value =>
        rw [Shift.run_of_ok opened]
        exact ⟨ends.rest_eq, ends.stats_eq⟩

/-- A watermark whose hook fails is not passed on with what was released for it, nothing
behind it is handled, and the operator is closed. -/
example :
    let operator : Operator Unit Nat Nat :=
      { process := fun _ records state => { state, emitted := records }
        timer := fun _ _ time state =>
          { state, emitted := [9]
            result := if time = 5 then .error ⟨.channel .sendersGone, []⟩ else .ok () } }
    let shift : Shift Nat :=
      ⟨⟨"late", 0, 1⟩, 0, 9,
        [(1, .record 3 none), (2, .watermark 4), (3, .watermark 5), (4, .finished)]⟩
    (shift.run operator.logged ((), [])).sent = [.record 3 none, .record 9 none, .watermark 4] ∧
      (shift.run operator.logged ((), [])).state.2 =
        [.start, .process [3], .timer .eventTime 4, .timer .eventTime 5, .stop] := by
  decide

end Task
end PreAggregation
