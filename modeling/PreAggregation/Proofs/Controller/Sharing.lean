import Mathlib.Data.List.Induction
import PreAggregation.Controller.Panel
import PreAggregation.Proofs.Controller.Cycle
import PreAggregation.Proofs.Controller.LiveTuning

/-!
# Controllers that share a trigger

Several controllers change the threshold of one trigger, in halves of cycles or in whole
ones, while records are counted and the threshold is set from outside.  Behind every
history of calls each controller has its own baseline, nothing that waits gets lost or
replaced, and the answer to a call tells what the call did.
-/

namespace PreAggregation
namespace Panel

/-- What a call asks of which controller. -/
def Call.request? : Call → Option (Nat × Request)
  | .timeTrigger | .event .element | .event .reset | .event (.setMaxCount _) => none
  | .event (.propose index _) => some (index, .propose)
  | .event (.applyPending index) => some (index, .apply)
  | .event (.adjust index _) => some (index, .adjust)
  | .event (.receive index payload) =>
      match Adjustment.parse payload with
      | .ok _ => some (index, .adjust)
      | .error _ => some (index, .nothing)

/-- Whether a call lets a controller look at the threshold in force. -/
def Call.looks
    (index : Nat)
    (call : Call) : Bool :=
  call.request?.any fun asked => asked.1 = index && asked.2.looks

/-- The calls before the first that lets a controller look at the threshold in force. -/
def beforeLook?
    (index : Nat) : List Call → Option (List Call)
  | [] => none
  | call :: rest =>
      if call.looks index then some [] else (beforeLook? index rest).map (call :: ·)

/-- The baseline of a controller. -/
def baseline?
    (panel : Panel)
    (index : Nat) : Option Int :=
  panel.controllers[index]?.bind fun controller => controller.tuning.baseline

/-- The threshold that waits at a controller. -/
def pending?
    (panel : Panel)
    (index : Nat) : Option Int :=
  panel.controllers[index]?.bind fun controller => controller.tuning.pending

/-- The outcome in an answer. -/
def Answer.outcome? : Answer → Option Outcome
  | .outcome told => some told
  | .none | .fires _ | .changed _ | .failed _ => .none

theorem Answer.outcome?_elim (outcome : Option Outcome) :
    (outcome.elim Answer.none Answer.outcome).outcome? = outcome := by
  cases outcome <;> rfl

theorem beforeLook?_concat
    (index : Nat)
    (calls : List Call)
    (call : Call) :
    beforeLook? index (calls ++ [call]) =
      (beforeLook? index calls).or (if call.looks index then some calls else none) := by
  induction calls with
  | nil =>
      rw [List.nil_append, beforeLook?, beforeLook?, beforeLook?]
      rfl
  | cons first rest inductionHypothesis =>
      rw [List.cons_append, beforeLook?, beforeLook?, inductionHypothesis]
      by_cases looks : first.looks index = true
      · rw [if_pos looks, if_pos looks, Option.some_or]
      · rw [if_neg looks, if_neg looks]
        by_cases last : call.looks index = true
        · rw [if_pos last, if_pos last]
          cases beforeLook? index rest <;> rfl
        · rw [if_neg last, if_neg last, Option.or_none, Option.or_none]

theorem callAll_concat
    (panel : Panel)
    (calls : List Call)
    (call : Call) :
    panel.callAll (calls ++ [call]) = ((panel.callAll calls).call call).1 := by
  rw [callAll, List.foldl_append]
  rfl

/-! ## One call -/

theorem maxCount_pos_setMaxCount
    {trigger : Trigger}
    (positive : 0 < trigger.maxCount)
    (maxCount : Nat) :
    0 < (trigger.setMaxCount maxCount).1.maxCount := by
  unfold Trigger.setMaxCount
  split
  · exact positive
  · rename_i present
    exact Nat.pos_of_ne_zero present

/-- A call that asks nothing of the controllers leaves them alone. -/
theorem call_of_unasked
    (panel : Panel)
    {call : Call}
    (unasked : call.request? = none) :
    (panel.call call).1.controllers = panel.controllers ∧
      (0 < panel.trigger.maxCount → 0 < (panel.call call).1.trigger.maxCount) ∧
      (panel.call call).2.outcome? = none := by
  cases call with
  | timeTrigger => exact ⟨rfl, id, rfl⟩
  | event event =>
      cases event with
      | element =>
          refine ⟨rfl, fun positive => ?_, rfl⟩
          exact (Trigger.maxCount_onElement panel.trigger).symm ▸ positive
      | reset => exact ⟨rfl, id, rfl⟩
      | setMaxCount maxCount =>
          exact ⟨rfl, fun positive => maxCount_pos_setMaxCount positive maxCount, rfl⟩
      | propose index delta => simp [Call.request?] at unasked
      | applyPending index => simp [Call.request?] at unasked
      | adjust index delta => simp [Call.request?] at unasked
      | receive index payload =>
          rw [Call.request?] at unasked
          split at unasked <;> simp at unasked

/-- A call that asks something of a controller is one of four. -/
theorem request?_eq_some_cases
    {call : Call}
    {index : Nat}
    {request : Request}
    (asked : call.request? = some (index, request)) :
    (∃ delta, call = .event (.propose index delta) ∧ request = .propose) ∨
      (call = .event (.applyPending index) ∧ request = .apply) ∨
      (∃ delta, call = .event (.adjust index delta) ∧ request = .adjust) ∨
      ∃ payload, call = .event (.receive index payload) ∧
        ((∃ delta, Adjustment.parse payload = .ok delta ∧ request = .adjust) ∨
          ∃ error, Adjustment.parse payload = .error error ∧ request = .nothing) := by
  cases call with
  | timeTrigger => simp [Call.request?] at asked
  | event event =>
      cases event with
      | element => simp [Call.request?] at asked
      | reset => simp [Call.request?] at asked
      | setMaxCount maxCount => simp [Call.request?] at asked
      | propose other delta =>
          cases asked
          exact Or.inl ⟨delta, rfl, rfl⟩
      | applyPending other =>
          cases asked
          exact Or.inr (Or.inl ⟨rfl, rfl⟩)
      | adjust other delta =>
          cases asked
          exact Or.inr (Or.inr (Or.inl ⟨delta, rfl, rfl⟩))
      | receive other payload =>
          rw [Call.request?] at asked
          cases spelled : Adjustment.parse payload with
          | ok delta =>
              rw [spelled] at asked
              cases asked
              exact Or.inr (Or.inr (Or.inr ⟨payload, rfl, Or.inl ⟨delta, spelled, rfl⟩⟩))
          | error error =>
              rw [spelled] at asked
              cases asked
              exact Or.inr (Or.inr (Or.inr ⟨payload, rfl, Or.inr ⟨error, spelled, rfl⟩⟩))

theorem call_of_absent
    {panel : Panel}
    {call : Call}
    {index : Nat}
    {request : Request}
    (asked : call.request? = some (index, request))
    (absent : panel.controllers[index]? = none) :
    panel.call call = (panel, .none) := by
  rcases request?_eq_some_cases asked with
    ⟨delta, rfl, _⟩ | ⟨rfl, _⟩ | ⟨delta, rfl, _⟩ | ⟨payload, rfl, _⟩
  all_goals simp only [Panel.call, step, absent]

/-- A payload that spells no adjustment changes nothing. -/
theorem call_receive_of_error
    {payload : List UInt8}
    {error : Error}
    (spelled : Adjustment.parse payload = .error error)
    (panel : Panel)
    (index : Nat) :
    (panel.call (.event (.receive index payload))).1 = panel := by
  cases present : panel.controllers[index]? with
  | none => simp only [Panel.call, step, present]
  | some controller =>
      obtain ⟨bound, rfl⟩ := List.getElem?_eq_some_iff.mp present
      simp only [Panel.call, step, present, Controller.receive, spelled, setController,
        Ledger.recordReceived, List.set_getElem_self]

/-- A call on a controller changes this one only, and the trigger with it. -/
theorem call_of_asked
    {panel : Panel}
    {call : Call}
    {index : Nat}
    {request : Request}
    {controller : Controller}
    (asked : call.request? = some (index, request))
    (present : panel.controllers[index]? = some controller)
    (grounded : controller.Grounded) :
    ∃ next, (panel.call call).1.controllers = panel.controllers.set index next ∧
      controller.Acts request panel.trigger next (panel.call call).1.trigger
        (panel.call call).2.outcome? := by
  rcases request?_eq_some_cases asked with
    ⟨delta, rfl, rfl⟩ | ⟨rfl, rfl⟩ | ⟨delta, rfl, rfl⟩ | ⟨payload, rfl, spelled⟩
  · have acts := controller.acts_propose grounded panel.trigger delta
    simp only [Panel.call, step, present]
    exact ⟨_, rfl, acts⟩
  · have acts := controller.acts_applyPending panel.trigger
    simp only [Panel.call, step, present]
    rw [Answer.outcome?_elim]
    exact ⟨_, rfl, acts⟩
  · have acts := controller.acts_adjust grounded panel.trigger delta
    simp only [Panel.call, step, present]
    exact ⟨_, rfl, acts⟩
  · rcases spelled with ⟨delta, spelled, rfl⟩ | ⟨error, spelled, rfl⟩
    · have acts := controller.acts_adjust grounded panel.trigger delta
      simp only [Panel.call, step, present, Controller.receive, spelled]
      exact ⟨_, rfl, acts⟩
    · have acts := controller.acts_nothing panel.trigger
      simp only [Panel.call, step, present, Controller.receive, spelled]
      exact ⟨controller, rfl, acts⟩

/-! ## One controller -/

/-- The trigger has a threshold, and at no controller one waits without its baseline. -/
structure Sound (panel : Panel) : Prop where
  /-- The threshold is positive. -/
  maxCount_pos : 0 < panel.trigger.maxCount
  /-- What waits was computed from a baseline. -/
  grounded : ∀ controller ∈ panel.controllers, Controller.Grounded controller

section Sound

variable {panel : Panel}

theorem Sound.exists_call_of_asked
    (sound : panel.Sound)
    {call : Call}
    {index : Nat}
    {request : Request}
    {controller : Controller}
    (asked : call.request? = some (index, request))
    (present : panel.controllers[index]? = some controller) :
    ∃ next, (panel.call call).1.controllers = panel.controllers.set index next ∧
      controller.Acts request panel.trigger next (panel.call call).1.trigger
        (panel.call call).2.outcome? :=
  call_of_asked asked present (sound.grounded controller (List.mem_of_getElem? present))

theorem Sound.length_controllers_call
    (sound : panel.Sound)
    (call : Call) :
    (panel.call call).1.controllers.length = panel.controllers.length := by
  cases asked : call.request? with
  | none => rw [(panel.call_of_unasked asked).1]
  | some request =>
      obtain ⟨index, request⟩ := request
      cases present : panel.controllers[index]? with
      | none => rw [call_of_absent asked present]
      | some controller =>
          obtain ⟨next, controllers, _⟩ := sound.exists_call_of_asked asked present
          rw [controllers, List.length_set]

/-- A controller does what is asked of it, and stays as it is if nothing is. -/
theorem Sound.exists_controller_call
    (sound : panel.Sound)
    {index : Nat}
    {controller : Controller}
    (present : panel.controllers[index]? = some controller)
    (call : Call) :
    ∃ next, (panel.call call).1.controllers[index]? = some next ∧
      ((∃ request, call.request? = some (index, request) ∧
          controller.Acts request panel.trigger next (panel.call call).1.trigger
            (panel.call call).2.outcome?) ∨
        (∀ request, call.request? ≠ some (index, request)) ∧ next = controller) := by
  cases asked : call.request? with
  | none =>
      rw [(panel.call_of_unasked asked).1]
      exact ⟨controller, present, Or.inr ⟨fun _ => by simp, rfl⟩⟩
  | some request =>
      obtain ⟨other, request⟩ := request
      by_cases same : other = index
      · subst same
        obtain ⟨next, controllers, acts⟩ := sound.exists_call_of_asked asked present
        obtain ⟨bound, _⟩ := List.getElem?_eq_some_iff.mp present
        rw [controllers, List.getElem?_set_self bound]
        exact ⟨next, rfl, Or.inl ⟨request, rfl, acts⟩⟩
      · refine ⟨controller, ?_, Or.inr ⟨fun _ => by simp [same], rfl⟩⟩
        cases otherPresent : panel.controllers[other]? with
        | none =>
            rw [call_of_absent asked otherPresent]
            exact present
        | some otherController =>
            obtain ⟨next, controllers, _⟩ := sound.exists_call_of_asked asked otherPresent
            rw [controllers, List.getElem?_set_ne same]
            exact present

theorem Sound.controllers_call_of_absent
    (sound : panel.Sound)
    {index : Nat}
    (absent : panel.controllers[index]? = none)
    (call : Call) :
    (panel.call call).1.controllers[index]? = none := by
  rw [List.getElem?_eq_none_iff] at absent ⊢
  rw [sound.length_controllers_call]
  exact absent

theorem Sound.call
    (sound : panel.Sound)
    (call : Call) :
    (panel.call call).1.Sound := by
  constructor
  · cases asked : call.request? with
    | none => exact (panel.call_of_unasked asked).2.1 sound.maxCount_pos
    | some request =>
        obtain ⟨index, request⟩ := request
        cases present : panel.controllers[index]? with
        | none =>
            rw [call_of_absent asked present]
            exact sound.maxCount_pos
        | some controller =>
            obtain ⟨_, _, acts⟩ := sound.exists_call_of_asked asked present
            exact acts.maxCount_pos sound.maxCount_pos
  · intro member isMember
    obtain ⟨index, isAt⟩ := List.getElem?_of_mem isMember
    cases present : panel.controllers[index]? with
    | none =>
        rw [sound.controllers_call_of_absent present] at isAt
        exact absurd isAt (by simp)
    | some controller =>
        have grounded := sound.grounded controller (List.mem_of_getElem? present)
        obtain ⟨next, found, asked | unasked⟩ := sound.exists_controller_call present call
        · obtain ⟨request, _, acts⟩ := asked
          rw [Option.some.inj (isAt.symm.trans found)]
          exact acts.grounded grounded
        · rw [Option.some.inj (isAt.symm.trans found), unasked.2]
          exact grounded

/-- A baseline stays.  A controller that has none takes the threshold in force when it
looks at it. -/
theorem Sound.baseline?_call
    (sound : panel.Sound)
    {index : Nat}
    (bound : index < panel.controllers.length)
    (call : Call) :
    (panel.call call).1.baseline? index =
      (panel.baseline? index).or
        (if call.looks index then some (Threshold.baseline panel.trigger.maxCount : Int)
          else none) := by
  have present := List.getElem?_eq_getElem bound
  obtain ⟨next, found, asked | unasked⟩ := sound.exists_controller_call present call
  · obtain ⟨request, asked, acts⟩ := asked
    have looks : call.looks index = request.looks := by simp [Call.looks, asked]
    rw [baseline?, found, baseline?, present, Option.bind_some, Option.bind_some, looks]
    exact acts.baseline_eq
  · have looks : call.looks index = false := by
      cases asked : call.request? with
      | none => simp [Call.looks, asked]
      | some request =>
          obtain ⟨other, request⟩ := request
          have different : other ≠ index := by
            rintro rfl
            exact unasked.1 request asked
          simp [Call.looks, asked, different]
    rw [baseline?, found, baseline?, present, unasked.2, looks]
    exact Option.or_none.symm

/-- What waits goes when it is applied, and nothing else takes its place. -/
theorem Sound.pending?_call_of_waiting
    (sound : panel.Sound)
    {index : Nat}
    {value : Int}
    (waiting : panel.pending? index = some value)
    (call : Call) :
    (panel.call call).1.pending? index =
      if call.request? = some (index, .apply) then none else some value := by
  obtain ⟨controller, present, waits⟩ := Option.bind_eq_some_iff.mp waiting
  obtain ⟨next, found, asked | unasked⟩ := sound.exists_controller_call present call
  · obtain ⟨request, asked, acts⟩ := asked
    rw [pending?, found, Option.bind_some, acts.pending_of_waiting value waits, asked]
    simp
  · rw [pending?, found, Option.bind_some, unasked.2, if_neg (unasked.1 _)]
    exact waits

/-- What comes to wait was proposed, and is told. -/
theorem Sound.pending?_call_of_idle
    (sound : panel.Sound)
    {index : Nat}
    {value : Int}
    {call : Call}
    (idle : panel.pending? index = none)
    (waits : (panel.call call).1.pending? index = some value) :
    call.request? = some (index, .propose) ∧
      (panel.call call).2.outcome? = some (.pending value) := by
  obtain ⟨next, found, nextWaits⟩ := Option.bind_eq_some_iff.mp waits
  cases present : panel.controllers[index]? with
  | none =>
      rw [sound.controllers_call_of_absent present] at found
      exact absurd found (by simp)
  | some controller =>
      rw [pending?, present, Option.bind_some] at idle
      obtain ⟨same, isSame, asked | unasked⟩ := sound.exists_controller_call present call
      · obtain ⟨request, asked, acts⟩ := asked
        rw [Option.some.inj (found.symm.trans isSame)] at nextWaits
        obtain ⟨rfl, told⟩ := acts.pending_of_idle value idle nextWaits
        exact ⟨asked, told⟩
      · rw [Option.some.inj (found.symm.trans isSame), unasked.2] at nextWaits
        exact absurd (idle.symm.trans nextWaits) (by simp)

/-- An outcome is that of the controller that was asked, and it is true. -/
theorem Sound.tells_call
    (sound : panel.Sound)
    {call : Call}
    {told : Outcome}
    (isTold : (panel.call call).2.outcome? = some told) :
    ∃ index request controller next, call.request? = some (index, request) ∧
      panel.controllers[index]? = some controller ∧
      (panel.call call).1.controllers = panel.controllers.set index next ∧
      told.Tells controller next panel.trigger (panel.call call).1.trigger ∧
      ∀ value, told = .pending value → request = .propose := by
  cases asked : call.request? with
  | none => exact absurd ((panel.call_of_unasked asked).2.2.symm.trans isTold) (by simp)
  | some request =>
      obtain ⟨index, request⟩ := request
      cases present : panel.controllers[index]? with
      | none =>
          rw [call_of_absent asked present] at isTold
          exact absurd isTold (by simp [Answer.outcome?])
      | some controller =>
          obtain ⟨next, controllers, acts⟩ := sound.exists_call_of_asked asked present
          refine ⟨index, request, controller, next, rfl, present, controllers,
            acts.tells told isTold, ?_⟩
          rintro value rfl
          exact acts.propose_of_pending value isTold

/-- An adjustment of a controller has an outcome, and so has what is applied. -/
theorem Sound.isSome_outcome?_call
    (sound : panel.Sound)
    {call : Call}
    {index : Nat}
    {request : Request}
    (asked : call.request? = some (index, request))
    (bound : index < panel.controllers.length) :
    (panel.call call).2.outcome?.isSome =
      (request.looks || (request = .apply && (panel.pending? index).isSome)) := by
  have present := List.getElem?_eq_getElem bound
  obtain ⟨_, _, acts⟩ := sound.exists_call_of_asked asked present
  rw [acts.isSome_eq, pending?, present, Option.bind_some]

theorem Sound.count_call
    (sound : panel.Sound)
    {call : Call}
    (asked : call.request?.isSome) :
    (panel.call call).1.trigger.count = panel.trigger.count := by
  obtain ⟨⟨index, request⟩, asked⟩ := Option.isSome_iff_exists.mp asked
  cases present : panel.controllers[index]? with
  | none => rw [call_of_absent asked present]
  | some controller =>
      obtain ⟨_, _, acts⟩ := sound.exists_call_of_asked asked present
      exact acts.count_eq

/-! ## Many calls -/

theorem Sound.callAll
    (sound : panel.Sound)
    (calls : List Call) :
    (panel.callAll calls).Sound := by
  induction calls using List.reverseRecOn with
  | nil => exact sound
  | append_singleton calls call inductionHypothesis =>
      rw [callAll_concat]
      exact inductionHypothesis.call call

theorem Sound.length_controllers_callAll
    (sound : panel.Sound)
    (calls : List Call) :
    (panel.callAll calls).controllers.length = panel.controllers.length := by
  induction calls using List.reverseRecOn with
  | nil => rfl
  | append_singleton calls call inductionHypothesis =>
      rw [callAll_concat, (sound.callAll calls).length_controllers_call, inductionHypothesis]

theorem Sound.baseline?_callAll
    (sound : panel.Sound)
    {index : Nat}
    (bound : index < panel.controllers.length)
    (calls : List Call) :
    (panel.callAll calls).baseline? index =
      (panel.baseline? index).or
        ((beforeLook? index calls).map fun earlier =>
          (Threshold.baseline (panel.callAll earlier).trigger.maxCount : Int)) := by
  induction calls using List.reverseRecOn with
  | nil => exact Option.or_none.symm
  | append_singleton calls call inductionHypothesis =>
      have reached := sound.callAll calls
      rw [← sound.length_controllers_callAll calls] at bound
      rw [callAll_concat, reached.baseline?_call bound, inductionHypothesis, beforeLook?_concat,
        Option.map_or, Option.or_assoc]
      congr 2
      split <;> rfl

end Sound

theorem sound_ofTrigger
    {trigger : Trigger}
    (positive : 0 < trigger.maxCount)
    (subtask count : Nat) :
    (ofTrigger trigger subtask count).Sound where
  maxCount_pos := positive
  grounded controller member := by
    obtain ⟨offset, _, rfl⟩ := List.mem_map.mp member
    exact Controller.grounded_ofSubtask _

theorem baseline?_ofTrigger
    (trigger : Trigger)
    (subtask count index : Nat) :
    (ofTrigger trigger subtask count).baseline? index = none := by
  rw [baseline?, Option.bind_eq_none_iff]
  intro controller present
  obtain ⟨offset, _, rfl⟩ := List.mem_map.mp (List.mem_of_getElem? present)
  rfl

theorem outcome?_eq_some_iff
    {answer : Answer}
    {told : Outcome} :
    answer.outcome? = some told ↔ answer = .outcome told := by
  cases answer <;> simp [Answer.outcome?]

/-- Behind any calls on an accepted trigger and its controllers a baseline is the
threshold that its controller found first, and it stays.  A threshold waits beside a
baseline from its proposal to its application.  The threshold in force is positive, calls
on controllers keep the count, and a payload that is no adjustment changes nothing.  An
outcome tells what the call did to the controller and to the trigger, and every
adjustment has one. -/
theorem outcomes_tell_truth
    {threshold : Nat}
    {trigger : Trigger}
    (isNew : trigger.IsNew threshold)
    (subtask count : Nat)
    (calls : List Call)
    (call : Call) :
    let behind := (ofTrigger trigger subtask count).callAll
    let panel := behind calls
    let next := (panel.call call).1
    let answer := (panel.call call).2
    (∀ index < count, panel.baseline? index =
      (beforeLook? index calls).map fun earlier =>
        ((min (behind earlier).trigger.maxCount Threshold.greatest : Nat) : Int)) ∧
    (∀ index start later, panel.baseline? index = some start →
      (behind (calls ++ later)).baseline? index = some start) ∧
    (∀ index value, panel.pending? index = some value →
      (panel.baseline? index).isSome ∧
      next.pending? index =
        if call.request? = some (index, .apply) then none else some value) ∧
    (∀ index value, panel.pending? index = none → next.pending? index = some value →
      call.request? = some (index, .propose) ∧ answer = .outcome (.pending value)) ∧
    0 < panel.trigger.maxCount ∧
    (call.request?.isSome → next.trigger.count = panel.trigger.count) ∧
    (∀ index payload error, call = .event (.receive index payload) →
      Adjustment.parse payload = .error error → next = panel) ∧
    (∀ told, answer = .outcome told →
      ∃ index request controller changed, call.request? = some (index, request) ∧
        panel.controllers[index]? = some controller ∧
        next.controllers = panel.controllers.set index changed ∧
        told.Tells controller changed panel.trigger next.trigger ∧
        ∀ value, told = .pending value → request = .propose) ∧
    (∀ index < count, ∀ request, call.request? = some (index, request) →
      answer.outcome?.isSome =
        (request.looks || (request = .apply && (panel.pending? index).isSome))) := by
  intro behind panel next answer
  have positive : 0 < trigger.maxCount := by
    have known := isNew.maxCount_eq
    omega
  have new := sound_ofTrigger positive subtask count
  have sound : panel.Sound := new.callAll calls
  have newLength : (ofTrigger trigger subtask count).controllers.length = count := by
    simp [ofTrigger]
  have length_eq : panel.controllers.length = count :=
    (new.length_controllers_callAll calls).trans newLength
  refine ⟨?_, ?_, ?_, ?_, sound.maxCount_pos, sound.count_call, ?_, ?_, ?_⟩
  · intro index bound
    have tracked := new.baseline?_callAll (newLength.symm ▸ bound) calls
    rwa [baseline?_ofTrigger, Option.none_or] at tracked
  · intro index start later known
    obtain ⟨controller, present, _⟩ := Option.bind_eq_some_iff.mp known
    obtain ⟨bound, _⟩ := List.getElem?_eq_some_iff.mp present
    have joined : behind (calls ++ later) = panel.callAll later := List.foldl_append
    rw [joined, sound.baseline?_callAll bound, known, Option.some_or]
  · intro index value waiting
    obtain ⟨controller, present, waits⟩ := Option.bind_eq_some_iff.mp waiting
    have grounded := sound.grounded controller (List.mem_of_getElem? present)
    refine ⟨?_, sound.pending?_call_of_waiting waiting call⟩
    rw [baseline?, present]
    exact grounded (Option.isSome_of_eq_some waits)
  · intro index value idle waits
    obtain ⟨asked, told⟩ := sound.pending?_call_of_idle idle waits
    exact ⟨asked, outcome?_eq_some_iff.mp told⟩
  · rintro index payload error rfl spelled
    exact call_receive_of_error spelled panel index
  · intro told isTold
    exact sound.tells_call (outcome?_eq_some_iff.mpr isTold)
  · intro index bound request asked
    exact sound.isSome_outcome?_call asked (length_eq.symm ▸ bound)

/-- Two controllers of a threshold of ten.  The first proposes and waits, the second
lowers the threshold below what the first found, and then the first applies. -/
theorem outcomes_tell_truth_two_controllers :
    let trigger : Trigger := ⟨0, 10, none, .global⟩
    let calls : List Call :=
      [.event (.propose 0 5), .event .element, .event (.setMaxCount 0), .timeTrigger,
        .event (.receive 1 (Adjustment.payload (-8))), .event (.receive 0 [0xff]),
        .event (.adjust 0 3)]
    let panel := (ofTrigger trigger 0 2).callAll calls
    let applied := panel.call (.event (.applyPending 0))
    trigger.IsNew 10 ∧ panel.baseline? 0 = some 10 ∧ panel.pending? 0 = some 15 ∧
      panel.trigger.maxCount = 2 ∧ applied.2 = .outcome (.applied 2 15) ∧
      applied.1.trigger.maxCount = 15 ∧ applied.1.pending? 0 = none := by
  intro trigger calls panel applied
  have built : Trigger.ofCount 10 .global = .ok trigger := rfl
  have isNew : trigger.IsNew 10 := .counted none built
  obtain ⟨baselines, _, waiting, _, _, _, _, tells, _⟩ :=
    outcomes_tell_truth isNew 0 2 calls (.event (.applyPending 0))
  have waits : panel.pending? 0 = some 15 := by decide +kernel
  have answer : applied.2 = .outcome (.applied 2 15) := by decide +kernel
  obtain ⟨_, _, _, _, _, _, _, ⟨previous, current, _⟩, _⟩ := tells _ answer
  refine ⟨isNew, ?_, waits, previous, answer, ?_, ?_⟩
  · exact (baselines 0 (by decide)).trans (by decide +kernel)
  · simp only [applied, panel]
    exact current
  · exact ((waiting 0 15 waits).2).trans (if_pos rfl)

end Panel
end PreAggregation
