import SensorRouter.CommandLine.Run
import SensorRouter.Service.Basic

/-!
The program: reads the files that the arguments name and runs the subcommand on them. There is no
listener for connections, so a service that has been started ends with the failure to bind its address.
-/

namespace SensorRouter.CommandLine

/-- The contents of the files at some paths, of those that can be read. -/
def readFiles (paths : List String) : IO Files := do
  let contents ← paths.mapM fun (path : String) => do
    try
      return (path, some (← IO.FS.readBinFile path))
    catch _ => return (path, none)
  return fun path => (contents.lookup path).join

/-- Reports how a subcommand ended, with its exit code. -/
def report {α : Type} (result : Except Failure α) : IO UInt32 := do
  match result with
  | .ok _ => return 0
  | .error e =>
    IO.eprintln ("Error: " ++ e.message)
    return 1

/-- Starts the service of a plan. -/
def runPlan (plan : Plan) : Except Failure Unit :=
  let surroundings : Surroundings Unit :=
    { repository := plan.registry.toRepository, publisher := logPublisher, clock := 0,
      present := ⟨0, 0⟩ }
  match Service.start surroundings plan.settings () with
  | .ok _ => .error (.bind plan.address)
  | .error _ => .error .load

end SensorRouter.CommandLine

open SensorRouter.CommandLine in
def main (arguments : List String) : IO UInt32 := do
  match readArguments arguments with
  | .error usage =>
    if usage.exitCode = 0 then IO.print usage.text else IO.eprint usage.text
    return usage.exitCode.toUInt32
  | .ok invocation =>
    let files ← readFiles invocation.paths
    match invocation with
    | .checkSettings path =>
      let (output, result) := checkSettings files path
      IO.print output
      report result
    | .serve settings listen seed _ => report ((prepare files settings listen seed).bind runPlan)
