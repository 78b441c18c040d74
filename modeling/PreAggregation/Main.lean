import PreAggregation.Command.Run

/-!
# The command

Reads the files that a command line names, runs it, and prints its report.
-/

open PreAggregation

/-- The content of a file, if it can be read. -/
def readContent (path : String) : IO (Option (List UInt8)) := do
  try
    let content ← IO.FS.readBinFile path
    return some content.toList
  catch _ => return none

/-- Runs a command line. -/
def main (words : List String) : IO UInt32 := do
  match Command.parse? words with
  | none =>
      IO.eprintln "usage: combinecrab [--log-level LEVEL] broker|publish|demo [OPTIONS]"
      return Command.Ending.usage.status
  | some request =>
      let started ← IO.monoNanosNow
      let contents ← request.paths.mapM fun path => do return (path, ← readContent path)
      let files path := (contents.find? fun entry => entry.1 = path).bind Prod.snd
      match request.run files started with
      | .error (.refused error) =>
          IO.eprintln ("Error: " ++ error.message)
          return (Command.Ending.failed error).status
      | .error .noRoom =>
          IO.eprintln "Error: capacity overflow"
          return Command.Ending.brokenOff.status
      | .ok report =>
          let finished ← IO.monoNanosNow
          report.sensorLines.forM fun line => IO.println line
          IO.println s!"{report.summary} task(s) in {(finished - started) / 1000}µs"
          return (Command.Ending.done report).status
