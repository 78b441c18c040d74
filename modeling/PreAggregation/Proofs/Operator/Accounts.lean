import PreAggregation.Operator.Task
import PreAggregation.Proofs.Operator.Books

/-!
# The account of a task

A task whose operator keeps its books sends, up to the mark of the end, what its records
are worth, whatever ticks and harmless changes come in between.  Behind the end nothing
is left, and the mark is sent last.
-/

namespace PreAggregation

/-- The value of a record. -/
def Element.value?
    {α : Type} : Element α → Option α
  | .record value _ => some value
  | .watermark _ | .finished => none

namespace Arrival

variable {σ ι ο μ : Type}

/-- The record that arrives. -/
def record? : Arrival σ ι → Option ι
  | .element arrived => arrived.value?
  | .tick _ | .outside _ => none

/-- Not the end, and no change that touches the books. -/
def Harmless (books : Books σ ο μ) : Arrival σ ι → Prop
  | .element arrived => arrived.isFinished = false
  | .tick _ => True
  | .outside change => ∀ state, books.sound state →
      books.sound (change state) ∧ books.held (change state) = books.held state

end Arrival

namespace Task

variable {σ ι ο μ : Type} [AddCommMonoid μ] {books : Books σ ο μ}

/-- What some elements are worth. -/
def worth
    (books : Books σ ο μ)
    (elements : List (Element ο)) : μ :=
  ((elements.filterMap Element.value?).map books.value).sum

/-- No element is the mark of the end, and all records are proper. -/
def Proper
    (books : Books σ ο μ)
    (elements : List (Element ο)) : Prop :=
  ∀ element ∈ elements, element.isFinished = false ∧ ∀ value ∈ element.value?, books.proper value

/-- The records that arrive. -/
def records (arrivals : List (Instant × Arrival σ ι)) : List ι :=
  arrivals.filterMap fun arrival => arrival.2.record?

theorem worth_append
    (books : Books σ ο μ)
    (first second : List (Element ο)) :
    worth books (first ++ second) = worth books first + worth books second := by
  rw [worth, List.filterMap_append, List.map_append, List.sum_append, worth, worth]

/-! ## One arrival -/

/-- A task accounts for an arrival that is not the end. -/
structure Progress.Settles
    (books : Books σ ο μ)
    (before : σ)
    (arrived : μ)
    (progress : Progress σ ο) : Prop where
  succeeds : progress.result = .ok ()
  /-- What is sent and held amounts to what was held and has arrived. -/
  balanced : worth books progress.sent + books.held progress.state = books.held before + arrived
  sound : books.sound progress.state
  proper : Proper books progress.sent

theorem forward_of_ok
    {step : Step σ ο}
    (succeeds : step.result = .ok ())
    (stats : TaskStats)
    (mark : Option (Element ο)) :
    forward true stats step mark =
      { state := step.state
        stats := { stats with recordsOut := stats.recordsOut + step.emitted.length }
        sent := step.emitted.map (Element.record · none) ++ mark.toList } := by
  unfold forward
  rw [succeeds]
  rfl

theorem worth_map_record
    (books : Books σ ο μ)
    (outputs : List ο) :
    worth books (outputs.map (Element.record · none)) = (outputs.map books.value).sum := by
  have values : (outputs.map (Element.record · none)).filterMap Element.value? = outputs := by
    rw [List.filterMap_map]
    exact List.filterMap_some
  rw [worth, values]

omit [AddCommMonoid μ] in
theorem proper_map_record
    {outputs : List ο}
    (proper : ∀ output ∈ outputs, books.proper output) :
    Proper books (outputs.map (Element.record · none)) := by
  intro element member
  obtain ⟨output, emitted, rfl⟩ := List.mem_map.mp member
  refine ⟨rfl, ?_⟩
  intro value carried
  cases carried
  exact proper output emitted

omit [AddCommMonoid μ] in
theorem proper_append
    {first second : List (Element ο)}
    (early : Proper books first)
    (late : Proper books second) :
    Proper books (first ++ second) :=
  fun element member => (List.mem_append.mp member).elim (early element) (late element)

/-- What a step emitted is passed on, with a watermark behind it if there is one. -/
theorem settles_forward
    {before : σ}
    {arrived : μ}
    {step : Step σ ο}
    (settles : step.Settles books before arrived)
    (stats : TaskStats)
    (time : Option Int) :
    (forward true stats step (time.map Element.watermark)).Settles books before arrived := by
  rw [forward_of_ok settles.succeeds]
  refine ⟨rfl, ?_, settles.sound, ?_⟩
  · have nothing : worth books (time.map Element.watermark).toList = 0 := by
      cases time <;> rfl
    rw [worth_append, worth_map_record, nothing, add_zero]
    exact settles.balanced
  · apply proper_append (proper_map_record settles.proper)
    intro element member
    obtain ⟨reached, _, rfl⟩ := Option.map_eq_some_iff.mp (Option.mem_toList.mp member)
    exact ⟨rfl, fun _ carried => absurd carried (Option.not_mem_none _)⟩

theorem settles_handle
    {operator : Operator σ ι ο}
    {weight : ι → μ}
    (accountable : operator.Accountable books weight)
    (now : Instant)
    {arrival : Arrival σ ι}
    (harmless : arrival.Harmless books)
    {state : σ}
    (sound : books.sound state)
    (stats : TaskStats) :
    (handle operator true now state stats arrival).Settles books state
        (arrival.record?.toList.map weight).sum ∧
      (handle operator true now state stats arrival).stats.recordsIn =
        stats.recordsIn + arrival.record?.toList.length ∧
      (handle operator true now state stats arrival).ended = false := by
  have passed {step : Step σ ο} {arrived : μ} (settles : step.Settles books state arrived)
      (stats : TaskStats) (time : Option Int) :
      (forward true stats step (time.map Element.watermark)).Settles books state arrived ∧
        (forward true stats step (time.map Element.watermark)).stats.recordsIn = stats.recordsIn ∧
        (forward true stats step (time.map Element.watermark)).ended = false := by
    refine ⟨settles_forward settles stats time, ?_⟩
    rw [forward_of_ok settles.succeeds]
    exact ⟨rfl, rfl⟩
  cases arrival with
  | element arrived =>
      cases arrived with
      | record value _ => exact passed (accountable.process now [value] sound) _ none
      | watermark time => exact passed (accountable.timer now .eventTime time sound) _ (some time)
      | finished => exact Bool.noConfusion harmless
  | tick time => exact passed (accountable.timer now .processingTime time sound) _ none
  | outside change =>
      obtain ⟨still, same⟩ := harmless state sound
      refine ⟨⟨rfl, ?_, still, ?_⟩, rfl, rfl⟩
      · change 0 + books.held (change state) = books.held state + 0
        rw [same, zero_add, add_zero]
      · exact fun _ member => absurd member List.not_mem_nil

/-! ## A whole run -/

/-- A task accounts for its records, and sends the mark of the end last. -/
structure Run.Settles
    (books : Books σ ο μ)
    (arrived : μ)
    (count : Nat)
    (run : Run σ ι ο) : Prop where
  succeeds : run.result = .ok ()
  /-- All records are counted. -/
  recordsIn_eq : run.stats.recordsIn = count
  /-- What is sent is worth what has arrived. -/
  sent_eq : ∃ front, run.sent = front ++ [.finished] ∧ Proper books front ∧
    worth books front = arrived

theorem settles_loopFrom
    {operator : Operator σ ι ο}
    {weight : ι → μ}
    (accountable : operator.Accountable books weight)
    {body : List (Instant × Arrival σ ι)}
    (harmless : ∀ arrival ∈ body, arrival.2.Harmless books)
    (now : Instant)
    {state : σ}
    (sound : books.sound state)
    (stats : TaskStats)
    {sent : List (Element ο)}
    (proper : Proper books sent.reverse) :
    (loopFrom operator true state stats sent (body ++ [(now, .element .finished)])).Settles books
      (worth books sent.reverse + (books.held state + ((records body).map weight).sum))
      (stats.recordsIn + (records body).length) := by
  induction body generalizing state stats sent with
  | nil =>
      have finished := accountable.finish now sound
      have emptied := finished.balanced
      rw [accountable.released now sound, add_zero, add_zero] at emptied
      simp only [List.nil_append, loopFrom, handle, forward_of_ok finished.succeeds,
        List.reverse_append, List.reverse_reverse]
      refine ⟨rfl, rfl, _, (List.append_assoc _ _ _).symm, ?_, ?_⟩
      · exact proper_append proper (proper_map_record finished.proper)
      · rw [worth_append, worth_map_record, emptied]
        exact congrArg (worth books sent.reverse + ·) (add_zero _).symm
  | cons first rest inductionHypothesis =>
      obtain ⟨now, arrival⟩ := first
      obtain ⟨settled, counted, open_⟩ := settles_handle accountable now
        (harmless _ List.mem_cons_self) sound stats
      have all : ((handle operator true now state stats arrival).sent.reverse ++ sent).reverse =
          sent.reverse ++ (handle operator true now state stats arrival).sent := by
        rw [List.reverse_append, List.reverse_reverse]
      have properAll : Proper books
          ((handle operator true now state stats arrival).sent.reverse ++ sent).reverse := by
        rw [all]
        exact proper_append proper settled.proper
      have later := inductionHypothesis
        (fun other among => harmless other (List.mem_cons_of_mem _ among)) settled.sound
        (handle operator true now state stats arrival).stats properAll
      have split : records ((now, arrival) :: rest) = arrival.record?.toList ++ records rest := by
        rw [records, List.filterMap_cons]
        cases arrival.record? <;> rfl
      have count : (handle operator true now state stats arrival).stats.recordsIn +
          (records rest).length = stats.recordsIn + (records ((now, arrival) :: rest)).length := by
        rw [counted, split, List.length_append, Nat.add_assoc]
      have account : worth books (sent.reverse ++ (handle operator true now state stats arrival).sent) +
            (books.held (handle operator true now state stats arrival).state +
              ((records rest).map weight).sum) =
          worth books sent.reverse +
            (books.held state + ((records ((now, arrival) :: rest)).map weight).sum) := by
        rw [worth_append, add_assoc, ← add_assoc (worth books _) (books.held _), settled.balanced,
          split, List.map_append, List.sum_append, add_assoc]
      rw [all, count, account] at later
      simp only [List.cons_append, loopFrom, settled.succeeds, open_, Bool.false_eq_true, if_false]
      exact later

/-- From its opening to its closing a task accounts for its records. -/
theorem settles_run
    {operator : Operator σ ι ο}
    {weight : ι → μ}
    (accountable : operator.Accountable books weight)
    (subtask : Subtask)
    (opened closed ended : Instant)
    {body : List (Instant × Arrival σ ι)}
    (harmless : ∀ arrival ∈ body, arrival.2.Harmless books)
    (state : σ) :
    (run operator subtask opened closed true (body ++ [(ended, .element .finished)]) state).Settles
      books ((records body).map weight).sum (records body).length := by
  obtain ⟨opens, holdsNothing, sound⟩ := accountable.start opened subtask state
  have nothing : Proper books ([] : List (Element ο)).reverse :=
    fun _ member => absurd member List.not_mem_nil
  have looped := settles_loopFrom accountable harmless ended sound {} nothing
  have account : worth books ([] : List (Element ο)).reverse +
        (books.held (operator.start opened subtask state).state + ((records body).map weight).sum) =
      ((records body).map weight).sum := by
    rw [holdsNothing, zero_add]
    exact zero_add _
  rw [account, Nat.zero_add] at looped
  obtain ⟨succeeds, counted, sends⟩ := looped
  refine ⟨?_, ?_, ?_⟩
  · simp only [run, opens, loop, succeeds, accountable.stop]
  · simp only [run, opens, loop]
    exact counted
  · simp only [run, opens, loop]
    exact sends

end Task
end PreAggregation
