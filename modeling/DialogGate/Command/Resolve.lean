import DialogGate.Command.Error
import DialogGate.Exchange.Output
import DialogGate.Log.Resolving

/-! # Resolving a list

The command reads labels and variables from JSON and resolves the labels. Only the shape of the
input can make it fail: conditions that fail are told in the log.
-/

namespace DialogGate

/-- What to resolve. -/
structure Resolve where
  /-- The labels and variables in JSON. -/
  input : Option Text
  markers : Markers

namespace Resolve

/-- The labels and variables. -/
def read (r : Resolve) : Except CommandError Input :=
  match r.input with
  | some text => Input.read text
  | none => .error .noInput

/-- Resolves labels with the variables that came with them. -/
def resolution (markers : Markers) (input : Input) : Resolution :=
  Resolution.of markers input.table.store input.labels

/-- Resolves a list. -/
def run (r : Resolve) : Except CommandError Resolution := do
  return resolution r.markers (← r.read)

/-- How many conditions failed, if any did. -/
def failureLog (r : Resolution) : List Log.Record :=
  if r.diagnostics.isEmpty then []
  else
    [⟨.info, .resolveCommand,
      Text.ofNat r.diagnostics.length ++ " condition(s) could not be evaluated".toList⟩]

/-- What resolving a list tells. -/
def log (r : Resolve) : List Log.Record :=
  match r.read with
  | .error _ => []
  | .ok input =>
    Resolution.log r.markers input.table.store input.labels ++
      failureLog (resolution r.markers input)

end Resolve

end DialogGate
