import BuildYard.Cli.Run
import BuildYard.Cluster.Remote
import BuildYard.Text.Identifier
import Std.Time.DateTime.Timestamp
/-!
# The program

The outer layer: it takes the arguments, the variables, the clock and randomness from the system,
and prints what a run comes to. It has no way to an API server, so every command that needs a
cluster ends with a failure to connect.
-/

open BuildYard

/-- The time of the system's clock. -/
def systemClock : IO Instant := do
  let now := (← Std.Time.Timestamp.now).val
  return (Instant.of? now.second.val now.nano.val.toNat).getD .epoch

/-- The variables of the system that settings are read from. -/
def systemVariables : IO (String → Option String) := do
  let pairs ← Settings.variableNames.mapM fun name => do
    return (name, ← IO.getEnv name)
  return fun name => (pairs.lookup name).join

/-- Runs the program. -/
def main (arguments : List String) : IO UInt32 := do
  let around : Cli.Surroundings Remote := {
    environment := ← systemVariables
    cluster := none
    now := ← systemClock
    freshId := Text.identifier (← IO.getRandomBytes 16).toList }
  let (ending, _) := Cli.run arguments around
  match ending with
  | .misused => IO.eprintln "error: the arguments were not understood; try --help"
  | .helped => IO.println ("commands: " ++ ", ".intercalate (Cli.usages.map (·.1)))
  | .ran report =>
    IO.print report.stdout
    if let some failure := report.failure then IO.eprintln ("Error: " ++ failure)
  return UInt32.ofNat ending.exitCode
