import PreAggregation.Proofs.Controller.Tracking

/-!
# The cycle of an adjustment

A controller first computes a threshold, which then waits, and applies it afterwards.  A
call asks for one half of this cycle or for both.  What is said here of a single call
holds of any controller in which a threshold waits only beside its baseline.
-/

namespace PreAggregation

/-- What a call asks of a controller. -/
inductive Request
  /-- Compute a threshold. -/
  | propose
  /-- Apply the threshold that waits. -/
  | apply
  /-- Compute a threshold and apply it. -/
  | adjust
  /-- Nothing, like a payload that spells no adjustment. -/
  | nothing
  deriving DecidableEq

/-- Whether a controller looks at the threshold in force. -/
def Request.looks : Request → Bool
  | .propose | .adjust => true
  | .apply | .nothing => false

/-- What an outcome tells about a call that made `next` of a controller and `changed` of
its trigger. -/
def Outcome.Tells
    (controller next : Controller)
    (trigger changed : Trigger) : Outcome → Prop
  | .pending value =>
      controller.tuning.pending = none ∧ next.tuning.pending = some value ∧ changed = trigger
  | .applied previous current =>
      trigger.maxCount = previous ∧ changed.maxCount = current ∧ current ≠ previous
  | .unchanged value => trigger.maxCount = value ∧ changed.maxCount = value
  | .rejected value => value ≤ 0 ∧ changed = trigger
  | .duplicate value =>
      controller.tuning.pending = some value ∧ next = controller ∧ changed = trigger
  | .noBaseline => False

/-! ## Applying -/

/-- What applying a threshold makes of a trigger, and the outcome. -/
inductive Trigger.Takes
    (trigger : Trigger)
    (value : Int) : Trigger → Outcome → Prop
  | rejected : value ≤ 0 → Takes trigger value trigger (.rejected value)
  | unchanged : 0 < value → trigger.maxCount = value.toNat →
      Takes trigger value trigger (.unchanged trigger.maxCount)
  | applied : 0 < value → value.toNat ≠ trigger.maxCount →
      Takes trigger value { trigger with maxCount := value.toNat }
        (.applied trigger.maxCount value.toNat)

section Takes

variable {trigger changed : Trigger} {value : Int} {outcome : Outcome}

theorem Trigger.Takes.count_eq (takes : trigger.Takes value changed outcome) :
    changed.count = trigger.count := by
  cases takes <;> rfl

theorem Trigger.Takes.maxCount_pos
    (takes : trigger.Takes value changed outcome)
    (positive : 0 < trigger.maxCount) :
    0 < changed.maxCount := by
  cases takes with
  | rejected => exact positive
  | unchanged => exact positive
  | applied valuePositive =>
      dsimp only
      omega

theorem Trigger.Takes.tells
    (takes : trigger.Takes value changed outcome)
    (controller next : Controller) :
    outcome.Tells controller next trigger changed := by
  cases takes with
  | rejected nonpositive => exact ⟨nonpositive, rfl⟩
  | unchanged => exact ⟨rfl, rfl⟩
  | applied _ different => exact ⟨rfl, rfl, different⟩

theorem Trigger.Takes.ne_pending
    (takes : trigger.Takes value changed outcome)
    (other : Int) :
    outcome ≠ .pending other := by
  cases takes <;> exact Outcome.noConfusion

end Takes

namespace Controller

/-- The controller with nothing that waits. -/
def released (controller : Controller) : Controller :=
  { controller with tuning := controller.tuning.consume.1 }

theorem applyPending_of_idle
    {controller : Controller}
    (idle : controller.tuning.pending = none)
    (trigger : Trigger) :
    controller.applyPending trigger = (controller, trigger, none) := by
  rw [applyPending, idle]

theorem exists_applyPending_of_waiting
    {controller : Controller}
    {value : Int}
    (waiting : controller.tuning.pending = some value)
    (trigger : Trigger) :
    ∃ changed outcome,
      controller.applyPending trigger = (controller.released, changed, some outcome) ∧
      trigger.Takes value changed outcome := by
  rw [applyPending, waiting]
  dsimp only
  by_cases nonpositive : value ≤ 0
  · rw [if_pos nonpositive]
    exact ⟨_, _, rfl, .rejected nonpositive⟩
  · have positive : 0 < value := Int.not_le.mp nonpositive
    have present : value.toNat ≠ 0 := by omega
    rw [if_neg nonpositive, Trigger.setMaxCount, if_neg present]
    by_cases same : trigger.maxCount = value.toNat
    · have unaltered : { trigger with maxCount := value.toNat } = trigger := by rw [← same]
      simp only [same, ne_eq, not_true_eq_false, decide_false]
      rw [unaltered, ← same]
      exact ⟨_, _, rfl, .unchanged positive same⟩
    · have different : value.toNat ≠ trigger.maxCount := fun equal => same equal.symm
      simp only [different, ne_eq, not_false_eq_true, decide_true]
      exact ⟨_, _, rfl, .applied positive different⟩

/-! ## Calls -/

/-- A threshold waits only beside the baseline from which it was computed. -/
def Grounded (controller : Controller) : Prop :=
  controller.tuning.pending.isSome → controller.tuning.baseline.isSome

theorem grounded_ofSubtask (subtask : Nat) : (ofSubtask subtask).Grounded :=
  fun waits => absurd waits (by simp [ofSubtask, Tuning.initial])

/-- What a call makes of a controller and its trigger, and what it tells. -/
structure Acts
    (request : Request)
    (controller : Controller)
    (trigger : Trigger)
    (next : Controller)
    (changed : Trigger)
    (outcome : Option Outcome) : Prop where
  /-- A baseline stays.  Without one the threshold in force is taken. -/
  baseline_eq : next.tuning.baseline =
    controller.tuning.baseline.or
      (if request.looks then some (Threshold.baseline trigger.maxCount : Int) else none)
  /-- What waits goes when it is applied, and nothing else takes its place. -/
  pending_of_waiting : ∀ value, controller.tuning.pending = some value →
    next.tuning.pending = if request = .apply then none else some value
  /-- What comes to wait is told. -/
  pending_of_idle : ∀ value, controller.tuning.pending = none → next.tuning.pending = some value →
    request = .propose ∧ outcome = some (.pending value)
  /-- Nothing is told to wait but what is proposed. -/
  propose_of_pending : ∀ value, outcome = some (.pending value) → request = .propose
  /-- The trigger keeps its count. -/
  count_eq : changed.count = trigger.count
  /-- The threshold stays one. -/
  maxCount_pos : 0 < trigger.maxCount → 0 < changed.maxCount
  /-- An adjustment has an outcome, and so has what is applied. -/
  isSome_eq : outcome.isSome =
    (request.looks || (request = .apply && controller.tuning.pending.isSome))
  /-- The outcome is true. -/
  tells : ∀ told, outcome = some told → told.Tells controller next trigger changed

section Acts

variable {controller : Controller}

theorem Acts.grounded
    {request : Request}
    {trigger changed : Trigger}
    {next : Controller}
    {outcome : Option Outcome}
    (acts : Acts request controller trigger next changed outcome)
    (grounded : controller.Grounded) :
    next.Grounded := by
  intro waits
  obtain ⟨value, nextWaits⟩ := Option.isSome_iff_exists.mp waits
  rw [acts.baseline_eq, Option.isSome_or, Bool.or_eq_true]
  cases before : controller.tuning.pending with
  | some earlier => exact Or.inl (grounded (Option.isSome_of_eq_some before))
  | none =>
      obtain ⟨proposed, _⟩ := acts.pending_of_idle value before nextWaits
      rw [proposed]
      exact Or.inr rfl

theorem startOf_eq_getD
    (controller : Controller)
    (maxCount : Nat) :
    some (controller.startOf maxCount) =
      controller.tuning.baseline.or (some (Threshold.baseline maxCount : Int)) := by
  have cast :
      ((Threshold.baseline maxCount : Nat) : Int) = min (maxCount : Int) Threshold.greatest := by
    unfold Threshold.baseline
    omega
  rw [startOf, ← cast]
  cases controller.tuning.baseline <;> rfl

/-- Beside a threshold that waits no other one is computed. -/
theorem propose_of_waiting
    {value : Int}
    (grounded : controller.Grounded)
    (waiting : controller.tuning.pending = some value)
    (maxCount : Nat)
    (delta : Int) :
    controller.propose maxCount delta = (controller, .duplicate value) := by
  obtain ⟨start, present⟩ :=
    Option.isSome_iff_exists.mp (grounded (Option.isSome_of_eq_some waiting))
  rw [propose, Tuning.setBaseline, present]
  dsimp only
  rw [waiting]

theorem acts_nothing
    (controller : Controller)
    (trigger : Trigger) :
    Acts .nothing controller trigger controller trigger none where
  baseline_eq := (Option.or_none).symm
  pending_of_waiting _ waiting := waiting
  pending_of_idle _ idle waiting := absurd (idle.symm.trans waiting) (by simp)
  propose_of_pending _ told := absurd told (by simp)
  count_eq := rfl
  maxCount_pos := id
  isSome_eq := rfl
  tells _ told := absurd told (by simp)

/-- An adjustment that finds a threshold waiting is without effect. -/
theorem acts_duplicate
    {request : Request}
    {value : Int}
    (grounded : controller.Grounded)
    (waiting : controller.tuning.pending = some value)
    (looks : request.looks = true)
    (trigger : Trigger) :
    Acts request controller trigger controller trigger (some (.duplicate value)) where
  baseline_eq := by
    obtain ⟨start, present⟩ :=
      Option.isSome_iff_exists.mp (grounded (Option.isSome_of_eq_some waiting))
    rw [present, Option.some_or]
  pending_of_waiting _ same := by
    have other : request ≠ .apply := by
      rintro rfl
      exact absurd looks (by decide)
    rw [same, if_neg other]
  pending_of_idle _ idle := absurd (idle.symm.trans waiting) (by simp)
  propose_of_pending _ told := absurd told (by simp)
  count_eq := rfl
  maxCount_pos := id
  isSome_eq := by rw [looks, Bool.true_or, Option.isSome_some]
  tells told isTold := by
    cases isTold
    exact ⟨waiting, rfl, rfl⟩

theorem acts_propose
    (grounded : controller.Grounded)
    (trigger : Trigger)
    (delta : Int) :
    Acts .propose controller trigger (controller.propose trigger.maxCount delta).1 trigger
      (some (controller.propose trigger.maxCount delta).2) := by
  cases before : controller.tuning.pending with
  | some value =>
      rw [propose_of_waiting grounded before]
      exact acts_duplicate grounded before rfl trigger
  | none =>
      rw [propose_eq before]
      exact {
        baseline_eq := startOf_eq_getD controller trigger.maxCount
        pending_of_waiting := fun value waiting => absurd (before.symm.trans waiting) (by simp)
        pending_of_idle := fun value _ waiting =>
          ⟨rfl, congrArg (Option.map Outcome.pending) waiting⟩
        propose_of_pending := fun _ _ => rfl
        count_eq := rfl
        maxCount_pos := id
        isSome_eq := rfl
        tells := fun told isTold => by
          cases isTold
          exact ⟨before, rfl, rfl⟩ }

theorem acts_applyPending
    (controller : Controller)
    (trigger : Trigger) :
    Acts .apply controller trigger (controller.applyPending trigger).1
      (controller.applyPending trigger).2.1 (controller.applyPending trigger).2.2 := by
  cases before : controller.tuning.pending with
  | none =>
      rw [applyPending_of_idle before]
      exact { acts_nothing controller trigger with
        pending_of_waiting := fun value waiting => absurd (before.symm.trans waiting) (by simp)
        pending_of_idle := fun value _ waiting => absurd (before.symm.trans waiting) (by simp)
        propose_of_pending := fun value told => absurd told (by simp)
        isSome_eq := by rw [before]; rfl }
  | some value =>
      obtain ⟨changed, outcome, applied, takes⟩ := exists_applyPending_of_waiting before trigger
      rw [applied]
      exact {
        baseline_eq := (Option.or_none).symm
        pending_of_waiting := fun _ _ => rfl
        pending_of_idle := fun _ idle => absurd (before.symm.trans idle) (by simp)
        propose_of_pending := fun other told =>
          absurd (Option.some.inj told) (takes.ne_pending other)
        count_eq := takes.count_eq
        maxCount_pos := takes.maxCount_pos
        isSome_eq := by rw [before]; rfl
        tells := fun told isTold => by
          cases isTold
          exact takes.tells controller _ }

theorem acts_adjust
    (grounded : controller.Grounded)
    (trigger : Trigger)
    (delta : Int) :
    Acts .adjust controller trigger (controller.adjust trigger delta).1
      (controller.adjust trigger delta).2.1 (some (controller.adjust trigger delta).2.2) := by
  cases before : controller.tuning.pending with
  | some value =>
      rw [adjust, propose_of_waiting grounded before]
      exact acts_duplicate grounded before rfl trigger
  | none =>
      rw [adjust, propose_eq before]
      dsimp only
      let value := Threshold.computed (controller.startOf trigger.maxCount) delta
      let proposed : Controller :=
        { controller with tuning :=
            { controller.tuning with
              baseline := some (controller.startOf trigger.maxCount)
              pending := some value } }
      have waits : proposed.tuning.pending = some value := rfl
      obtain ⟨changed, outcome, applied, takes⟩ := exists_applyPending_of_waiting waits trigger
      rw [applied]
      exact {
        baseline_eq := startOf_eq_getD controller trigger.maxCount
        pending_of_waiting := fun _ waiting => absurd (before.symm.trans waiting) (by simp)
        pending_of_idle := fun _ _ waiting => absurd waiting (by simp [released, Tuning.consume])
        propose_of_pending := fun other told =>
          absurd (Option.some.inj told) (takes.ne_pending other)
        count_eq := takes.count_eq
        maxCount_pos := takes.maxCount_pos
        isSome_eq := by rw [before]; rfl
        tells := fun told isTold => by
          cases isTold
          exact takes.tells controller _ }

end Acts

end Controller
end PreAggregation
