import DialogGate.CommandLine.Outcome

/-! # The program

Reads the arguments, and the standard input where a command asks for it, and hands out the outcome.
-/

open DialogGate

/-- The program `choices`. -/
def main (args : List String) : IO UInt32 := do
  let arguments := args.map String.toList
  let readsInput := match CommandLine.Request.ofArguments arguments with
    | some (.run i) => i.readsInput
    | _ => false
  let stdin ← if readsInput then (← IO.getStdin).readBinToEnd else pure ByteArray.empty
  let outcome := CommandLine.run arguments stdin
  IO.eprint (String.ofList outcome.stderr)
  IO.print (String.ofList outcome.stdout)
  return outcome.status.toUInt32
