import DialogGate.Binary64.Layout
import DialogGate.Expr.Printer

/-! # Values

What a condition evaluates to: a boolean or a number. No value of one type is ever taken for one of
the other.

* `sameAs_of_ne`: values of different types are never the same.
-/

namespace DialogGate

/-- The two types of values. -/
inductive ValueType where
  | boolean
  | number
  deriving DecidableEq, Repr

/-- The name of a type in messages. -/
def ValueType.name : ValueType → Text
  | boolean => "boolean".toList
  | number => "number".toList

/-- A boolean or a number. -/
inductive Value where
  | boolean (b : Bool)
  | number (x : Binary64)
  deriving DecidableEq, Inhabited

namespace Value

/-- The type of a value. -/
def type : Value → ValueType
  | boolean _ => .boolean
  | number _ => .number

/-- The text of a value. -/
def text : Value → Text
  | boolean b => Expr.booleanText b
  | number x => x.text

/-- Equality as conditions see it: of booleans, of numbers, and never between the two. -/
def sameAs : Value → Value → Bool
  | boolean a, boolean b => a == b
  | number a, number b => a.sameAs b
  | _, _ => false

theorem sameAs_of_ne {a b : Value} (h : a.type ≠ b.type) : a.sameAs b = false := by
  cases a <;> cases b <;> simp_all [type, sameAs]

end Value

end DialogGate
