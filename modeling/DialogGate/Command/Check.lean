import DialogGate.Command.Error
import DialogGate.Exchange.Output
import DialogGate.Log.Resolving

/-! # Checking one condition

The command reads a condition and either shows how it is grouped or evaluates it with the variables
given. The condition is read first, so that its faults are reported whatever the variables are.

* `run_of_parse_error`: a condition that cannot be read is reported before anything else.
-/

namespace DialogGate

/-- What to check. -/
structure Check where
  expression : Text
  /-- The table of variables in JSON. -/
  vars : Option Text
  /-- Show the grouping instead of evaluating. -/
  syntaxOnly : Bool

namespace Check

/-- The result of a check. -/
inductive Result where
  /-- The canonical form of the condition. -/
  | grouping (canonical : Text)
  | value (v : Value)

/-- The variables to evaluate with. -/
def table (vars : Option Text) : Except CommandError Table :=
  match vars with
  | some text => Table.read text
  | none => .ok Table.empty

/-- Evaluates a tree with a table. -/
def evaluate (e : Expr) (t : Table) : Except CommandError Result :=
  match e.eval t.store with
  | .ok v => .ok (.value v)
  | .error x => .error (.eval x)

/-- Checks a condition. -/
def run (c : Check) : Except CommandError Result :=
  match Expr.ofText c.expression with
  | .error e => .error (.parse e)
  | .ok e => if c.syntaxOnly then .ok (.grouping e.text) else (table c.vars).bind (evaluate e)

/-- What a check tells. -/
def log (c : Check) : List Log.Record := Expr.log c.expression

/-- The text of a result. -/
def Result.text : Result → Text
  | grouping canonical => canonical
  | value v => v.toJson.text

theorem run_of_parse_error {c : Check} {e : ParseError} (h : Expr.ofText c.expression = .error e) :
    c.run = .error (.parse e) := by
  simp [run, h]

end Check

end DialogGate
