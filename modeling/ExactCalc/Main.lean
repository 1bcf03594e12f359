import ExactCalc.CommandLine

/-!
# The program

Reads the settings from the environment and runs the command its arguments ask for. Traces are not
shown, so unreadable bodies go without an explanation.
-/

open ExactCalc in
def main (arguments : List String) : IO UInt32 := do
  let lengthLimit ← IO.getEnv Settings.lengthKey
  let digits ← IO.getEnv Settings.digitsKey
  let environment := fun key ↦
    if key = Settings.lengthKey then lengthLimit
    else if key = Settings.digitsKey then digits
    else none
  let outcome := CommandLine.runWith environment (fun _ ↦ "") arguments
  IO.print outcome.output
  IO.eprint outcome.errors
  return outcome.code.toUInt32
