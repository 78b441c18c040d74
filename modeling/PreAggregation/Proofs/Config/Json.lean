import PreAggregation.Config.Json
import PreAggregation.Proofs.Json.Documents

/-!
# Configurations that come back from JSON

A configuration is written with all its fields, each of which is read back as what was
written, so that the whole comes back if a stage can run with it.
-/

namespace PreAggregation
namespace Config

open Json

/-- A word comes back from its number. -/
theorem word?_natural (word : UInt64) : (Value.natural word.toNat).word? = some word := by
  rw [Value.word?, if_pos word.toNat_lt, UInt64.ofNat_toNat]

section Fields

variable (config : Config)

theorem setField?_strategy (strategy : Strategy) :
    config.setField? "strategy" (.text strategy.name) = some { config with strategy } :=
  congrArg (Option.map _) strategy.ofName?_name

theorem setField?_maxCount (maxCount : UInt64) :
    config.setField? "max_count" (.natural maxCount.toNat) = some { config with maxCount } :=
  congrArg (Option.map _) (word?_natural maxCount)

theorem setField?_maxTimeMs (maxTimeMs : Option UInt64) :
    config.setField? "max_time_ms" (maxTimeMs.elim .null fun ms => .natural ms.toNat) =
      some { config with maxTimeMs } := by
  cases maxTimeMs with
  | none => rfl
  | some ms => exact congrArg (Option.map _) (word?_natural ms)

theorem setField?_histogramWindow (histogramWindow : UInt64) :
    config.setField? "histogram_window" (.natural histogramWindow.toNat) =
      some { config with histogramWindow } :=
  congrArg (Option.map _) (word?_natural histogramWindow)

theorem setMembers?_cons
    {name : String}
    {seen : List String}
    {value : Value}
    {next : Config}
    (known : name ∈ fieldNames)
    (unseen : name ∉ seen)
    (set : config.setField? name value = some next)
    (rest : List (Option String × Value)) :
    config.setMembers? seen ((some name, value) :: rest) =
      next.setMembers? (name :: seen) rest := by
  rw [setMembers?, if_pos known, if_neg unseen, set, Option.bind_some]

theorem toJson_eq :
    config.toJson = .object [(some "strategy", .text config.strategy.name),
      (some "max_count", .natural config.maxCount.toNat),
      (some "max_time_ms", config.maxTimeMs.elim .null fun ms => .natural ms.toNat),
      (some "control_topic", .text config.controlTopic),
      (some "broker_address", .text config.brokerAddress),
      (some "histogram_window", .natural config.histogramWindow.toNat)] :=
  rfl

/-- All fields are set, each from what was written of it. -/
theorem ofJson?_toJson : ofJson? config.toJson = some config := by
  have topic (config : Config) (controlTopic : String) :
      config.setField? "control_topic" (.text controlTopic) = some { config with controlTopic } :=
    rfl
  have broker (config : Config) (brokerAddress : String) :
      config.setField? "broker_address" (.text brokerAddress) =
        some { config with brokerAddress } :=
    rfl
  rw [toJson_eq, ofJson?,
    setMembers?_cons _ (by decide) (by decide) (setField?_strategy _ config.strategy),
    setMembers?_cons _ (by decide) (by decide) (setField?_maxCount _ config.maxCount),
    setMembers?_cons _ (by decide) (by decide) (setField?_maxTimeMs _ config.maxTimeMs),
    setMembers?_cons _ (by decide) (by decide) (topic _ config.controlTopic),
    setMembers?_cons _ (by decide) (by decide) (broker _ config.brokerAddress),
    setMembers?_cons _ (by decide) (by decide) (setField?_histogramWindow _ config.histogramWindow)]
  rfl

theorem plain_toJson : config.toJson.Plain := by
  rw [toJson_eq]
  have timed : (config.maxTimeMs.elim Value.null fun ms => .natural ms.toNat).Plain := by
    cases config.maxTimeMs with
    | none => exact .null
    | some ms => exact .natural ms.toNat
  refine .object (by simp) ?_
  simp only [List.forall_mem_cons, List.not_mem_nil, false_implies, implies_true, and_true]
  exact ⟨.text _, .natural _, timed, .text _, .text _, .natural _⟩

theorem read?_jsonText : (read? config.jsonText.toList).bind ofJson? = some config := by
  rw [jsonText, Value.compact, String.toList_ofList, read?_write config.plain_toJson,
    Option.bind_some, ofJson?_toJson]

/-- The text of a valid configuration is read as the configuration. -/
theorem parse_jsonText_of_ok
    (valid : config.validate = .ok ()) :
    parse config.jsonText = .ok config := by
  rw [parse, read?_jsonText]
  dsimp only
  rw [valid]

/-- The text of any other configuration fails as its validation does. -/
theorem parse_jsonText_of_error
    {error : Error}
    (invalid : config.validate = .error error) :
    parse config.jsonText = .error error := by
  rw [parse, read?_jsonText]
  dsimp only
  rw [invalid]

end Fields

theorem validate_of_parse
    {text : String}
    {config : Config}
    (parsed : parse text = .ok config) :
    config.validate = .ok () := by
  unfold parse at parsed
  split at parsed
  · cases parsed
  · split at parsed
    · cases parsed
    · rename_i valid
      cases parsed
      exact valid

end Config
end PreAggregation
