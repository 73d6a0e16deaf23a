import DialogGate.Eval
import DialogGate.Expr.Parser

/-! # Conditions

A raw condition is read, evaluated and has to come out as a boolean. `Condition.check` does this and
keeps the cause of a failure.

* `check_eq_ok_iff`: a condition holds or fails exactly if its tree evaluates to that boolean.
-/

namespace DialogGate

/-- Why a condition has no truth value. -/
inductive ConditionError where
  | parse (e : ParseError)
  | eval (e : EvalError)
  /-- It came out as a value that is not a boolean. -/
  | notACondition (found : Value)

/-- The sentence for an author. -/
def ConditionError.message : ConditionError → Text
  | parse e => e.message
  | eval e => e.message
  | notACondition found => "condition must be a boolean, got ".toList ++ found.text

namespace Condition

/-- Takes a boolean out of a value. -/
def truth : Value → Except ConditionError Bool
  | .boolean b => .ok b
  | v => .error (.notACondition v)

/-- Whether a raw condition holds. -/
def check (store : Store) (raw : Text) : Except ConditionError Bool :=
  match Expr.ofText raw with
  | .error e => .error (.parse e)
  | .ok e =>
    match e.eval store with
    | .error x => .error (.eval x)
    | .ok v => truth v

theorem check_eq_ok_iff {store : Store} {raw : Text} {b : Bool} :
    check store raw = .ok b ↔ ∃ e, Expr.ofText raw = .ok e ∧ e.eval store = .ok (.boolean b) := by
  unfold check
  cases Expr.ofText raw with
  | error e => simp
  | ok e =>
    cases hv : e.eval store with
    | error x => simp [hv]
    | ok v => cases v <;> simp [hv, truth]

end Condition

end DialogGate
