import TimeRange.CommandLine

/-!
# The program

The command line program writes what `CommandLine.run` gives to the two
outputs and exits with its code.
-/

def main (arguments : List String) : IO UInt32 := do
  let outcome := TimeRange.CommandLine.run arguments
  IO.print outcome.output
  IO.eprint outcome.errors
  return outcome.code.toUInt32
