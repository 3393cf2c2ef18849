import LogIntake.Service.Ingest
import LogIntake.Service.Startup

/-!
# Command line

Checks the settings in the environment and, if they can be used, the log lines on standard input:
prints the answer that a request with these lines gets from a service with room for all of them.
Settings that cannot be used are reported from what failed to the reason, and the exit code is
one.
-/

namespace LogIntake.CommandLine

/-- The variables of this process that settings are read from. -/
def processVariables : IO Config.Variables := do
  let values ← Config.Service.variableNames.filterMapM fun name => do
    let value ← IO.getEnv name
    pure (value.map fun v => (name, Text.Utf8.encode v))
  pure ⟨values⟩

/-- The report of a failure. -/
def report (f : Service.Failure) : String :=
  "Error: " ++ "\nCaused by: ".intercalate f.chain

/-- Prints the answer to the lines on standard input. -/
def judgeLines : IO Unit := do
  let body ← (← IO.getStdin).readBinToEnd
  match (Service.Tally.ofBody body.toList).response.body with
  | .json v => IO.println v.render
  | .text s => IO.println s
  | .none => pure ()

/-- Checks the settings and then the lines; without a number of workers there is one. -/
def run : IO UInt32 := do
  match Config.Service.ofVariables 1 (← processVariables) with
  | .error e =>
    IO.eprintln (report (.settings e))
    pure 1
  | .ok _ =>
    judgeLines
    pure 0

end LogIntake.CommandLine

/-- Runs the command line. -/
def main : IO UInt32 :=
  LogIntake.CommandLine.run
