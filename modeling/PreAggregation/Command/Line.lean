import PreAggregation.Config.Basic
import PreAggregation.Control.Address

/-!
# Command lines

A command line names a command and gives values to its options, each at most once, as
`--name value` or `--name=value`.
-/

namespace PreAggregation
namespace Command

/-- An option of a command. -/
structure OptionSpec where
  /-- The name without its hyphens. -/
  name : String
  /-- Whether the value may begin with a hyphen. -/
  hyphenValue : Bool := false

/-- The values that a command line gives to options. -/
abbrev Values := List (String × String)

/-- The value of an option. -/
def Values.get? (values : Values) (name : String) : Option String :=
  (values.find? fun entry => entry.1 = name).map Prod.snd

/-- Adds a value, unless the option has one. -/
def Values.put? (values : Values) (name value : String) : Option Values :=
  if (values.get? name).isSome then none else some ((name, value) :: values)

/-- The option that a word names, and the value behind its equals sign. -/
def named? (specs : List OptionSpec) (word : List Char) : Option (OptionSpec × Option String) :=
  let name := String.ofList (word.takeWhile (· ≠ '='))
  (specs.find? fun spec => spec.name = name).map fun spec =>
    (spec, match word.dropWhile (· ≠ '=') with
      | [] => none
      | _ :: value => some (String.ofList value))

/-- Whether a word can be the value of an option. -/
def isValue (spec : OptionSpec) (word : String) : Bool :=
  spec.hyphenValue || word = "-" || word.toList.head? ≠ some '-'

/-- Reads options up to the first word that is none, and gives it and the words behind
it.  Two hyphens end the command line: no command takes words that are not options. -/
def readOptions? (specs : List OptionSpec) (values : Values) :
    List String → Option (Values × List String)
  | [] => some (values, [])
  | word :: rest =>
      match word.toList with
      | ['-', '-'] => if rest.isEmpty then some (values, []) else none
      | '-' :: '-' :: letters =>
          match named? specs letters with
          | none => none
          | some (spec, some value) =>
              match values.put? spec.name value with
              | none => none
              | some values => readOptions? specs values rest
          | some (spec, none) =>
              match rest with
              | [] => none
              | value :: rest =>
                  if isValue spec value then
                    match values.put? spec.name value with
                    | none => none
                    | some values => readOptions? specs values rest
                  else none
      | _ => some (values, word :: rest)

/-- What the sensor-average job is asked to do. -/
structure JobRequest where
  /-- The number of tasks. -/
  parallelism : Nat
  /-- The strategy of the stages. -/
  strategy : Strategy
  /-- The count threshold of the stages. -/
  maxCount : UInt64
  /-- The time threshold of the stages in milliseconds. -/
  maxTimeMs : Option UInt64
  /-- The control broker. -/
  broker : Option String
  /-- The file with the settings of the stages, which stand in for the thresholds. -/
  config : Option String
  /-- The file with the lines. -/
  input : Option String
  /-- The number of lines where there is no file. -/
  records : Nat
  deriving DecidableEq, Repr

/-- A command with its options. -/
inductive Request
  /-- Serve as a control broker. -/
  | broker (listen : String)
  | publish (broker topic : String) (value : Int)
  | job (request : JobRequest)
  deriving DecidableEq, Repr

/-- The value of an option read by `read`, or the standard one. -/
def valueOr? {α : Type} (values : Values) (name : String) (standard : α)
    (read : String → Option α) : Option α :=
  match values.get? name with
  | none => some standard
  | some text => read text

/-- The count of a numeral below `2 ^ 64`. -/
def count? (text : String) : Option Nat :=
  Text.Numeral.unsigned? 64 text.toList

/-- The word of a numeral below `2 ^ 64`. -/
def word? (text : String) : Option UInt64 :=
  (count? text).map UInt64.ofNat

/-- The strategy that a value names. -/
def strategy? (text : String) : Option Strategy :=
  (Strategy.parse text).toOption

/-- The path of a file. -/
def path? (text : String) : Option String :=
  if text.isEmpty then none else some text

/-- An address at which one can listen: a host given by its numbers, and a port. -/
def listenAddress? (text : String) : Option String :=
  if Address.isExact text.toList then some text else none

/-- The options of all commands. -/
def commonOptions : List OptionSpec :=
  [{ name := "log-level" }]

/-- The options of the broker. -/
def brokerOptions : List OptionSpec :=
  [{ name := "listen" }] ++ commonOptions

/-- The options of a publication. -/
def publishOptions : List OptionSpec :=
  [{ name := "broker" }, { name := "topic" }, { name := "value", hyphenValue := true }] ++
    commonOptions

/-- The options of the sensor-average job. -/
def jobOptions : List OptionSpec :=
  ["parallelism", "strategy", "max-count", "max-time-ms", "broker", "config", "input",
    "records", "pooling-ms"].map (fun name => { name := name }) ++ commonOptions

/-- The count threshold of a job that names none. -/
def standardJobCount : UInt64 :=
  64

/-- The values of a command that has no words besides its options. -/
def only? (specs : List OptionSpec) (words : List String) : Option Values :=
  match readOptions? specs [] words with
  | some (values, []) => some values
  | _ => none

/-- The request of a command with its words. -/
def request? (command : String) (words : List String) : Option Request :=
  match command with
  | "broker" => do
      let values ← only? brokerOptions words
      return .broker (← valueOr? values "listen" Config.defaultBroker listenAddress?)
  | "publish" => do
      let values ← only? publishOptions words
      let value ← (values.get? "value").bind fun text => Text.Numeral.signed? 64 text.toList
      return .publish ((values.get? "broker").getD Config.defaultBroker)
        ((values.get? "topic").getD Config.defaultTopic) value
  | "demo" => do
      let values ← only? jobOptions words
      let _ ← valueOr? values "pooling-ms" 0 count?
      return .job {
        parallelism := ← valueOr? values "parallelism" 2 count?
        strategy := ← valueOr? values "strategy" .global strategy?
        maxCount := ← valueOr? values "max-count" standardJobCount word?
        maxTimeMs := ← valueOr? values "max-time-ms" none fun text => (word? text).map some
        broker := values.get? "broker"
        config := ← valueOr? values "config" none fun text => (path? text).map some
        input := ← valueOr? values "input" none fun text => (path? text).map some
        records := ← valueOr? values "records" 10000 count? }
  | _ => none

/-- The request that a command line makes. -/
def parse? (words : List String) : Option Request :=
  match readOptions? commonOptions [] words with
  | some (_, command :: rest) => request? command rest
  | _ => none

end Command
end PreAggregation
