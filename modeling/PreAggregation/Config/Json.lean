import PreAggregation.Config.Basic
import PreAggregation.Json.Reader
import PreAggregation.Json.Writer

/-!
# Configurations as JSON

A configuration is written as an object with all its fields.  It is read from an
object whose fields may be missing, and may stand beside others, or from a list that
gives the first fields in their order.  What is missing is standard.
-/

namespace PreAggregation
namespace Config

open Json

/-- The names of the fields in their order. -/
def fieldNames : List String :=
  ["strategy", "max_count", "max_time_ms", "control_topic", "broker_address", "histogram_window"]

/-- The document of a configuration. -/
def toJson (config : Config) : Value :=
  .object (List.zipWith (fun name value => (some name, value)) fieldNames
    [.text config.strategy.name, .natural config.maxCount.toNat,
      (config.maxTimeMs.elim .null fun ms => .natural ms.toNat),
      .text config.controlTopic, .text config.brokerAddress,
      .natural config.histogramWindow.toNat])

/-- The JSON text of a configuration. -/
def jsonText (config : Config) : String :=
  config.toJson.compact

/-- The strategy that a document names, by its name or by an object whose only member
has that name and no value. -/
def strategyOfJson? : Value → Option Strategy
  | .string (some name) => Strategy.ofName? name
  | .object [(some name, .null)] => Strategy.ofName? name
  | _ => none

/-- The configuration with one of its fields set from a document. -/
def setField? (config : Config) (name : String) (value : Value) : Option Config :=
  match name with
  | "strategy" => (strategyOfJson? value).map fun strategy => { config with strategy }
  | "max_count" => value.word?.map fun maxCount => { config with maxCount }
  | "max_time_ms" =>
      match value with
      | .null => some { config with maxTimeMs := none }
      | value => value.word?.map fun ms => { config with maxTimeMs := some ms }
  | "control_topic" => value.text?.map fun controlTopic => { config with controlTopic }
  | "broker_address" => value.text?.map fun brokerAddress => { config with brokerAddress }
  | "histogram_window" =>
      value.word?.map fun histogramWindow => { config with histogramWindow }
  | _ => none

/-- The configuration with its fields set from the members of an object.  A field may
be set once; members with other names are passed over. -/
def setMembers? (config : Config) (seen : List String) :
    List (Option String × Value) → Option Config
  | [] => some config
  | (none, _) :: _ => none
  | (some name, value) :: rest =>
      if name ∈ fieldNames then
        if name ∈ seen then none
        else (config.setField? name value).bind fun config => setMembers? config (name :: seen) rest
      else setMembers? config seen rest

/-- The configuration with its fields set from a list of documents, in order. -/
def setItems? (config : Config) : List String → List Value → Option Config
  | _, [] => some config
  | [], _ :: _ => none
  | name :: names, value :: rest =>
      (config.setField? name value).bind fun config => setItems? config names rest

/-- The configuration that a document spells, whether or not a stage can run with it. -/
def ofJson? : Value → Option Config
  | .object members => setMembers? standard [] members
  | .array items => setItems? standard fieldNames items
  | _ => none

/-- The configuration that a text spells, if a stage can run with it. -/
def parse (text : String) : Except Error Config :=
  match (Json.read? text.toList).bind ofJson? with
  | none => .error ⟨.stage (.configuration .malformed), []⟩
  | some config =>
      match config.validate with
      | .error error => .error error
      | .ok () => .ok config

end Config

/-- The JSON text of a strategy. -/
def Strategy.jsonText (strategy : Strategy) : String :=
  (Json.Value.text strategy.name).compact

end PreAggregation
