import FieldCounter.Simulator.Run

/-!
# The simulator as a program

The number of days and the operating mode are the arguments; the log goes to standard error, as far
as the filter in the environment lets it through.
-/

open FieldCounter in
/-- Simulate, and write the log. -/
def main (args : List String) : IO Unit := do
  let filter := LogFilter.ofText ((← IO.getEnv "FIELD_COUNTER_LOG").getD "info")
  for line in Simulator.simulate (Simulator.Options.ofArgs args) filter do
    IO.eprintln line
