import DoubleWord.Calc.Run

/-!
# The calculator's command

Reads the command line and the four environment variables the calculator looks at, runs it, and
writes what the run leaves to standard output and standard error before exiting with its status.

Source: `main`, `apps/calc/src/main.rs:63-104`.
-/

open DoubleWord.Calc

/-- The environment variables the calculator reads. -/
def calculatorVariables : List String := ["FWNUM_BASE", "FWNUM_UPPERCASE", "RUST_LOG", "NO_COLOR"]

/-- Runs the calculator on the process's arguments and environment.
Source: `main`, `apps/calc/src/main.rs:63-104`. -/
def main (args : List String) : IO UInt32 := do
  let values ← calculatorVariables.mapM fun name => do pure (name, ← IO.getEnv name)
  let env := fun name => (values.find? (·.1 == name)).bind (·.2)
  let outcome := run env args
  let stdout ← IO.getStdout
  stdout.putStr outcome.stdout
  stdout.flush
  let stderr ← IO.getStderr
  stderr.putStr outcome.stderr
  stderr.flush
  pure outcome.status.toUInt32
