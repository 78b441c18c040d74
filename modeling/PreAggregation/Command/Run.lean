import PreAggregation.Command.Line
import PreAggregation.Config.Json
import PreAggregation.Sensor.Job

/-!
# Running commands

A command is run against the files that it names.  No broker can be reached and none
can be served: a publication fails, and a job runs with the thresholds that it has.
-/

namespace PreAggregation
namespace Command

/-- The content of a file, if it can be read. -/
abbrev Files := String → Option (List UInt8)

/-- The paths of the files that a request needs. -/
def Request.paths : Request → List String
  | .job request => request.config.toList ++ request.input.toList
  | .broker _ | .publish .. => []

/-- The settings of the stages of a job. -/
def JobRequest.settings (request : JobRequest) (files : Files) : Except Error Config := do
  let settings ← match request.config with
    | some path =>
        match (files path).bind Text.Utf8.decode? with
        | some text => Config.parse text
        | none => throw ⟨.unreadableFile path, []⟩
    | none =>
        pure { Config.ofCount request.maxCount with
          strategy := request.strategy, maxTimeMs := request.maxTimeMs }
  return { settings with brokerAddress := request.broker.getD settings.brokerAddress }

/-- What the sensor-average job is asked to do by a request. -/
def JobRequest.options (request : JobRequest) (files : Files) : Except Error Sensor.Options := do
  let config ← request.settings files
  return {
    parallelism := request.parallelism
    config
    link := if request.broker.isSome then .unreachable else .absent
    source :=
      match request.input with
      | some path => .file (files path)
      | none => .pattern request.records }

/-- What comes of a command line. -/
inductive Ending
  /-- The command line makes no request. -/
  | usage
  | failed (error : Error)
  /-- The job broke off for want of room. -/
  | brokenOff
  | done (report : Sensor.Report)

/-- The status that tells how a command line ended. -/
def Ending.status : Ending → UInt32
  | .usage => 2
  | .failed _ | .brokenOff => 1
  | .done _ => 0

/-- Fulfils a request. -/
def Request.run (request : Request) (files : Files) (now : Instant) :
    Except Obstacle Sensor.Report :=
  match request with
  | .broker address => .error (.refused ⟨.unreachableBroker address, []⟩)
  | .publish address _ _ => .error (.refused (Address.publishFailure address))
  | .job request => do
      let options ← (request.options files).mapError Obstacle.refused
      Sensor.run options now

/-- Runs a command line. -/
def run (words : List String) (files : Files) (now : Instant) : Ending :=
  match parse? words with
  | none => .usage
  | some request =>
      match request.run files now with
      | .ok report => .done report
      | .error (.refused error) => .failed error
      | .error .noRoom => .brokenOff

end Command
end PreAggregation
