import ShelterLine.Startup

/-!
# The command

Reads the settings from the environment and reports how a start with a new database goes.
-/

open ShelterLine

/-- Starts, and tells how it went. -/
def main : IO UInt32 := do
  let env ← Settings.names.filterMapM fun name => do return (← IO.getEnv name).map (name, ·)
  let start := Startup.ofSettings (.ofEnvironment env) .missing
  for line in start.lines do IO.eprintln line
  match start.desk with
  | .ok _ => return 0
  | .error text =>
    IO.eprintln (Startup.failureLine text)
    return 1
