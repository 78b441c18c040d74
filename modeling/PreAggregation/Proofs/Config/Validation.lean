import PreAggregation.Config.Basic

/-!
# Valid configurations

Validation succeeds if nothing is wrong with any of the fields, and names a fault of one of
them otherwise.
-/

namespace PreAggregation
namespace Config

/-- What validation makes sure of. -/
structure IsValid (config : Config) : Prop where
  /-- The count is a threshold. -/
  countFault?_eq : countFault? config.maxCount.toNat = none
  /-- The time threshold is not zero. -/
  maxTimeMs_ne : config.maxTimeMs ≠ some 0
  /-- The histogram keeps a sample. -/
  histogramWindow_ne : config.histogramWindow ≠ 0
  /-- The topic is not blank. -/
  controlTopic_ne : Text.trim config.controlTopic.toList ≠ []

theorem validate_eq_ok_iff_isValid {config : Config} :
    config.validate = .ok () ↔ config.IsValid := by
  rw [validate_eq_ok_iff, fault?]
  constructor
  · intro faultless
    split at faultless
    · cases faultless
    · split at faultless
      · cases faultless
      · split at faultless
        · cases faultless
        · split at faultless
          · cases faultless
          · rename_i countable timed kept named
            exact ⟨countable, timed, kept, fun blank => named (List.isEmpty_iff.mpr blank)⟩
  · intro isValid
    rw [isValid.countFault?_eq]
    dsimp only
    rw [if_neg isValid.maxTimeMs_ne, if_neg isValid.histogramWindow_ne,
      if_neg fun empty => isValid.controlTopic_ne (List.isEmpty_iff.mp empty)]

/-- What is not valid has a fault. -/
theorem exists_fault_of_validate
    {config : Config}
    (invalid : config.validate ≠ .ok ()) :
    ∃ fault, config.validate = .error ⟨.stage (.configuration fault), []⟩ := by
  rw [Ne, validate_eq_ok_iff] at invalid
  obtain ⟨fault, faulty⟩ := Option.ne_none_iff_exists'.mp invalid
  exact ⟨fault, by rw [validate, faulty]⟩

end Config
end PreAggregation
