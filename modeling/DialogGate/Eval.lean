import DialogGate.Binary64.Arithmetic
import DialogGate.Expr.ParseError
import DialogGate.Value
import DialogGate.Variables

/-! # Evaluation

`Expr.eval` computes the value of a tree from the variables of a store. Both operands of an operator
are always evaluated, the left one first, and the first error found is the result.

* `BinaryOp.apply`: what each operator does to two values.
* `indexOf?`: which numbers are indices. Every whole number from zero to `2 ^ 64` is one, the last
  of them standing for the largest index.
-/

namespace DialogGate

/-- Why a condition has no value. -/
inductive EvalError where
  /-- The operator does not take values of these types. -/
  | typeMismatch (op : BinaryOp) (left right : ValueType)
  /-- A value of this type cannot be negated. -/
  | notBoolean (found : ValueType)
  /-- A value of this type cannot be an index. -/
  | nonNumericIndex (found : ValueType)
  /-- The number is negative, fractional, not finite or too large for an index. -/
  | invalidIndex (index : Binary64)
  deriving DecidableEq

namespace EvalError

/-- The sentence for an author. -/
def message : EvalError → Text
  | typeMismatch op left right =>
    "type error: cannot apply ".toList ++ ParseError.ticked op.symbol ++ " to ".toList ++
      left.name ++ " and ".toList ++ right.name
  | notBoolean found => "type error: cannot negate a ".toList ++ found.name
  | nonNumericIndex found =>
    "type error: variable index must be a number, got a ".toList ++ found.name
  | invalidIndex index => "invalid variable index: ".toList ++ index.text

end EvalError

/-- The index that a number stands for. -/
def indexOf? (x : Binary64) : Option Nat :=
  match x.toNat? with
  | some n => if n ≤ Store.lastIndex + 1 then some (min n Store.lastIndex) else none
  | none => none

namespace BinaryOp

/-- The operator on two numbers. -/
def onNumbers (op : BinaryOp) (a b : Binary64) : Option Value :=
  match op with
  | less => some (.boolean (a.isBelow b))
  | greater => some (.boolean (b.isBelow a))
  | lessEqual => some (.boolean (a.isAtMost b))
  | greaterEqual => some (.boolean (b.isAtMost a))
  | add => some (.number (a + b))
  | subtract => some (.number (a - b))
  | multiply => some (.number (a * b))
  | divide => some (.number (a / b))
  | modulo => some (.number (a.remainder b))
  | power => some (.number (a.power b))
  | _ => none

/-- The operator on two booleans. -/
def onBooleans (op : BinaryOp) (a b : Bool) : Option Value :=
  match op with
  | or => some (.boolean (a || b))
  | and => some (.boolean (a && b))
  | _ => none

/-- The operator on two values. Equality takes values of all types, ordering and arithmetic take
numbers, conjunction and disjunction take booleans. -/
def apply (op : BinaryOp) (a b : Value) : Except EvalError Value :=
  match op with
  | equal => .ok (.boolean (a.sameAs b))
  | notEqual => .ok (.boolean (!a.sameAs b))
  | _ =>
    let result := match a, b with
      | .number x, .number y => op.onNumbers x y
      | .boolean p, .boolean q => op.onBooleans p q
      | _, _ => none
    match result with
    | some v => .ok v
    | none => .error (.typeMismatch op a.type b.type)

end BinaryOp

namespace Value

/-- The opposite boolean. -/
def negate : Value → Except EvalError Value
  | boolean b => .ok (.boolean (!b))
  | v => .error (.notBoolean v.type)

/-- The variable that a value points to. -/
def lookupIn (store : Store) : Value → Except EvalError Value
  | number x =>
    match indexOf? x with
    | some i => .ok (.number (store i))
    | none => .error (.invalidIndex x)
  | v => .error (.nonNumericIndex v.type)

end Value

/-- The value of a tree. -/
def Expr.eval (store : Store) : Expr → Except EvalError Value
  | boolean b => .ok (.boolean b)
  | number x => .ok (.number x)
  | lookup index => do (← index.eval store).lookupIn store
  | not operand => do (← operand.eval store).negate
  | binary op left right => do
    let a ← left.eval store
    let b ← right.eval store
    op.apply a b

/-! ## Which types an operator takes -/

/-- Equality has a result on all values. -/
theorem BinaryOp.apply_equal (a b : Value) : equal.apply a b = .ok (.boolean (a.sameAs b)) := rfl

/-- Whether an operator takes two values, and the type of its result, depend on their types only. -/
theorem BinaryOp.apply_type_congr (op : BinaryOp) {a b a' b' : Value} (ha : a.type = a'.type)
    (hb : b.type = b'.type) :
    (op.apply a b).map Value.type = (op.apply a' b').map Value.type := by
  cases a <;> cases a' <;> simp only [Value.type, reduceCtorEq] at ha <;>
    cases b <;> cases b' <;> simp only [Value.type, reduceCtorEq] at hb <;>
    cases op <;> simp [apply, onNumbers, onBooleans, Except.map, Value.type]

end DialogGate
