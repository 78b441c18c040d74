import PreAggregation.Proofs.Config.Json
import PreAggregation.Proofs.Config.Validation
import PreAggregation.Proofs.Controller.LiveTuning
import PreAggregation.Proofs.Stage.Calls
import PreAggregation.Stage.Construction

/-!
# What a valid configuration admits

The trigger asks no more of a configuration than its validation does, and neither does a
stage, except for the room of its histogram: the validation knows no window that is too
large.
-/

namespace PreAggregation

/-- A valid configuration has a trigger. -/
theorem Trigger.ofConfig_of_isValid
    {config : Config}
    (isValid : config.IsValid) :
    ofConfig config = .ok
      ⟨0, config.maxCount.toNat, config.maxTime, config.strategy⟩ := by
  have valid := Config.validate_eq_ok_iff_isValid.mpr isValid
  simp only [ofConfig, ofCount, valid, isValid.countFault?_eq, bind, Except.bind, pure, Except.pure]
  cases config.maxTime with
  | none => rfl
  | some maxTime => rfl

namespace Stage

variable {κ ν : Type}

/-- A stage is constructed around any trigger if its settings are valid and there can be room
for its histogram. -/
theorem constructAround_of_isValid
    {config : Config}
    (isValid : config.IsValid)
    (trigger : Trigger)
    (link : ControlLink)
    (now : Instant) :
    (constructAround config trigger link now : Except Obstacle (Stage κ ν)) =
      if config.histogramWindow.toNat ≤ Histogram.greatestWindow then
        .ok (unopened config trigger link now)
      else .error .noRoom := by
  have made : ofTrigger config trigger link now =
      .ok (unopened config trigger link now : Stage κ ν) :=
    ofTrigger_eq_ok_iff.mpr ⟨Config.validate_eq_ok_iff_isValid.mpr isValid, rfl⟩
  rw [constructAround, made, Histogram.allocate?_eq]
  by_cases room : config.histogramWindow.toNat ≤ Histogram.greatestWindow
  · rw [if_pos room, if_pos room]
    rfl
  · rw [if_neg room, if_neg room]
    rfl

theorem construct_of_isValid
    {config : Config}
    (isValid : config.IsValid)
    {trigger : Trigger}
    (configured : Trigger.ofConfig config = .ok trigger)
    (link : ControlLink)
    (now : Instant) :
    (construct config link now : Except Obstacle (Stage κ ν)) =
      if config.histogramWindow.toNat ≤ Histogram.greatestWindow then
        .ok (unopened config trigger link now)
      else .error .noRoom := by
  rw [construct, configured]
  exact constructAround_of_isValid isValid trigger link now

theorem exists_construct_eq
    {config : Config}
    (isValid : config.IsValid)
    (room : config.histogramWindow.toNat ≤ Histogram.greatestWindow)
    (link : ControlLink)
    (now : Instant) :
    ∃ stage : Stage κ ν, construct config link now = .ok stage :=
  ⟨_, (construct_of_isValid isValid (Trigger.ofConfig_of_isValid isValid) link now).trans
    (if_pos room)⟩

/-- Valid settings do not help where there cannot be room. -/
theorem construct_eq_noRoom
    {config : Config}
    (isValid : config.IsValid)
    (tooLarge : Histogram.greatestWindow < config.histogramWindow.toNat)
    (link : ControlLink)
    (now : Instant) :
    (construct config link now : Except Obstacle (Stage κ ν)) = .error .noRoom :=
  (construct_of_isValid isValid (Trigger.ofConfig_of_isValid isValid) link now).trans
    (if_neg (Nat.not_le.mpr tooLarge))

end Stage

namespace Config

open Stage

/-- The text of a configuration, whatever it is made of, is read as the configuration if that is
valid, and as a fault of it if not.  Any text that is read as a configuration gives a trigger by
its strategy, with a count that is positive and fits a signed word, and without a time of zero;
and it gives a stage around this trigger, unless there cannot be room for the histogram. -/
theorem parse_admits_but_for_room
    {κ ν : Type} :
    (∀ config : Config,
      (config.validate = .ok () → parse config.jsonText = .ok config) ∧
      (config.validate ≠ .ok () →
        ∃ fault, parse config.jsonText = .error ⟨.stage (.configuration fault), []⟩)) ∧
    ∀ text config, parse text = .ok config →
      ∃ trigger, Trigger.ofConfig config = .ok trigger ∧
        1 ≤ trigger.maxCount ∧ trigger.maxCount ≤ Threshold.greatest ∧
        trigger.strategy = config.strategy ∧
        trigger.maxTime ≠ some 0 ∧
        ∀ link now, (construct config link now : Except Obstacle (Stage κ ν)) =
          if config.histogramWindow.toNat ≤ Histogram.greatestWindow then
            .ok (unopened config trigger link now)
          else .error .noRoom := by
  refine ⟨fun config => ⟨fun valid => ?_, fun invalid => ?_⟩, fun text config parsed => ?_⟩
  · exact parse_jsonText_of_ok config valid
  · obtain ⟨fault, faulty⟩ := exists_fault_of_validate invalid
    exact ⟨fault, parse_jsonText_of_error config faulty⟩
  · have isValid := validate_eq_ok_iff_isValid.mp (validate_of_parse parsed)
    have configured := Trigger.ofConfig_of_isValid isValid
    obtain ⟨-, positive, fits⟩ := (Trigger.IsNew.configured configured rfl).maxCount_eq
    refine ⟨_, configured, positive, fits, rfl, ?_, construct_of_isValid isValid configured⟩
    intro zero
    obtain ⟨ms, timed, none⟩ := Option.map_eq_some_iff.mp zero
    have vanishes : ms.toNat = 0 := by omega
    exact isValid.maxTimeMs_ne (timed.trans (congrArg some (UInt64.toNat_inj.mp vanishes)))

/-- Quotes, backslashes and control characters come back, and so do the greatest numbers.  A
count of zero is a fault.  A text that sets one field gives a stage with the standard window. -/
theorem parse_admits_but_for_room_escaped :
    let config : Config := {
      strategy := .perInstance
      maxCount := 0x7fffffffffffffff
      maxTimeMs := some 0xffffffffffffffff
      controlTopic := "a\"b\\c\n\x00"
      brokerAddress := "ü\x1f"
      histogramWindow := 0xffffffffffffffff }
    let text := "\x7b\"max_count\": 3\x7d"
    parse config.jsonText = .ok config ∧
      (∃ fault, parse { config with maxCount := 0 }.jsonText =
        .error ⟨.stage (.configuration fault), []⟩) ∧
      parse text = .ok (.ofCount 3) ∧
      ∃ trigger, Trigger.ofConfig (.ofCount 3) = .ok trigger ∧
        (construct (.ofCount 3) .absent 7 : Except Obstacle (Stage Nat Nat)) =
          .ok (unopened (.ofCount 3) trigger .absent 7) := by
  intro config text
  obtain ⟨returns, admits⟩ := @parse_admits_but_for_room Nat Nat
  have parsed : parse text = .ok (.ofCount 3) := by decide +kernel
  refine ⟨(returns config).1 (by decide +kernel), (returns _).2 (by decide +kernel), parsed, ?_⟩
  obtain ⟨trigger, configured, -, -, -, -, constructed⟩ := admits text (.ofCount 3) parsed
  exact ⟨trigger, configured, constructed .absent 7⟩

/-- A text is read as a configuration whose histogram there cannot be room for. -/
theorem parse_admits_window_without_room :
    let text := "\x7b\"histogram_window\":18446744073709551615\x7d"
    let config : Config := { standard with histogramWindow := 0xffffffffffffffff }
    parse text = .ok config ∧
      (construct config .absent 0 : Except Obstacle (Stage Nat Nat)) = .error .noRoom := by
  intro text config
  refine ⟨by decide +kernel, ?_⟩
  have isValid : config.IsValid := validate_eq_ok_iff_isValid.mp (by decide +kernel)
  exact construct_eq_noRoom isValid (by decide) .absent 0

end Config
end PreAggregation
