import PreAggregation.Strategy

/-!
# Configuration of a stage

Every parallel instance of a stage is built from the same configuration.
-/

namespace PreAggregation

/-- The settings of a stage. -/
structure Config where
  /-- The scope of threshold adjustments. -/
  strategy : Strategy
  /-- The count threshold that the instances begin with. -/
  maxCount : UInt64
  /-- The age in milliseconds at which a bundle is flushed however small it is. -/
  maxTimeMs : Option UInt64
  /-- The control topic, or what the control topics of the instances begin with. -/
  controlTopic : String
  /-- The address of the control broker. -/
  brokerAddress : String
  /-- How many flush intervals the histogram keeps. -/
  histogramWindow : UInt64
  deriving DecidableEq, Repr

namespace Config

/-- The topic of a stage that names none. -/
def defaultTopic : String :=
  "topic-frequency-pre-aggregate"

/-- The address of the control broker where none is named. -/
def defaultBroker : String :=
  "127.0.0.1:1883"

/-- The number of flush intervals kept where none is named. -/
def defaultWindow : UInt64 :=
  500

/-- The settings of a stage that names none: every record is passed on at once. -/
def standard : Config where
  strategy := .global
  maxCount := 1
  maxTimeMs := none
  controlTopic := defaultTopic
  brokerAddress := defaultBroker
  histogramWindow := defaultWindow

/-- The standard settings with a count threshold. -/
def ofCount (maxCount : UInt64) : Config :=
  { standard with maxCount }

/-- The settings with a time threshold, given in nanoseconds and kept in whole
milliseconds modulo `2 ^ 64`. -/
def withMaxTime (config : Config) (nanoseconds : Nat) : Config :=
  { config with maxTimeMs := some (UInt64.ofNat (nanoseconds / 1000000)) }

/-- Why a count cannot be a threshold. -/
def countFault? (count : Nat) : Option ConfigFault :=
  if count = 0 then some .zeroCount
  else if Threshold.greatest < count then some (.countTooLarge count)
  else none

/-- The time threshold in nanoseconds, if there is one. -/
def maxTime (config : Config) : Option Nat :=
  config.maxTimeMs.map fun ms => ms.toNat * 1000000

/-- The first reason why a stage cannot run with these settings. -/
def fault? (config : Config) : Option ConfigFault :=
  match countFault? config.maxCount.toNat with
  | some fault => some fault
  | none =>
      if config.maxTimeMs = some 0 then some .zeroTime
      else if config.histogramWindow = 0 then some .emptyWindow
      else if (Text.trim config.controlTopic.toList).isEmpty then some .blankTopic
      else none

/-- Refuses settings that a stage cannot run with. -/
def validate (config : Config) : Except Error Unit :=
  match config.fault? with
  | some fault => .error ⟨.stage (.configuration fault), []⟩
  | none => .ok ()

/-- Validation succeeds exactly when there is no fault. -/
theorem validate_eq_ok_iff {config : Config} : config.validate = .ok () ↔ config.fault? = none := by
  unfold validate
  cases config.fault? <;> simp

end Config
end PreAggregation
