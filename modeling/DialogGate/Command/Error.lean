import DialogGate.Eval
import DialogGate.Exchange.Input
import DialogGate.Expr.ParseError
import DialogGate.Json.Reader

/-! # Why a command fails

The causes of failure of the commands, and the text in which each is reported. What is wrong with a
text that is not JSON is not told: such a report ends behind its first words.
-/

namespace DialogGate

/-- Why a command has no result. -/
inductive CommandError where
  | parse (e : ParseError)
  | eval (e : EvalError)
  /-- The text is not accepted as JSON. -/
  | json
  /-- The bytes are not text. -/
  | notUtf8
  | noInput
  | input (e : InputError)
  /-- The manual has no such topic. -/
  | unknownTopic (name : Text)

/-- The report of a failure; on a text that is not JSON, the words that every such report begins
with. -/
def CommandError.message : CommandError → Text
  | parse e => "Parse error: ".toList ++ e.message
  | eval e => "Evaluation error: ".toList ++ e.message
  | json => "Invalid JSON: ".toList
  | notUtf8 => "IO error: stream did not contain valid UTF-8".toList
  | noInput => "No input provided. Use --input or pipe JSON to stdin.".toList
  | input e => "Invalid input: ".toList ++ e.message
  | unknownTopic name =>
    "Unknown category: '".toList ++ name ++
      "'\nRun 'choices docs' to see available categories.".toList

/-- Reads what a text in JSON stands for. -/
def CommandError.reading {α : Type} (decode : Json → Except InputError α) (text : Text) :
    Except CommandError α :=
  match Json.ofText? text with
  | none => .error .json
  | some j =>
    match decode j with
    | .ok a => .ok a
    | .error e => .error (.input e)

/-- Reads a table of variables in JSON. -/
def Table.read (text : Text) : Except CommandError Table := CommandError.reading Table.ofJson text

/-- Reads labels and variables in JSON. -/
def Input.read (text : Text) : Except CommandError Input := CommandError.reading Input.ofJson text

end DialogGate
