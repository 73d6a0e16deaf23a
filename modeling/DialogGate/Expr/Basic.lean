import DialogGate.Binary64.Basic
import DialogGate.Operator.Basic

/-! # Expressions

The tree of a condition. A variable's index is an expression of its own, though conditions that are
read from text only ever have a number there.

* `size`: how many nodes a tree has.
* `alike`: equality of shape, operators and literals, numbers being compared as numbers, so that
  zero equals negative zero and the undefined number equals nothing.
-/

namespace DialogGate

/-- A condition as a tree. -/
inductive Expr where
  | boolean (value : Bool)
  | number (value : Binary64)
  /-- The game variable with the given index. -/
  | lookup (index : Expr)
  | not (operand : Expr)
  | binary (op : BinaryOp) (left right : Expr)
  deriving DecidableEq, Inhabited

namespace Expr

/-- How many nodes the tree has. -/
def size : Expr → Nat
  | boolean _ | number _ => 1
  | lookup e | not e => 1 + e.size
  | binary _ l r => 1 + l.size + r.size

/-- The same shape, the same operators, and equal literals. -/
def alike : Expr → Expr → Bool
  | boolean a, boolean b => a == b
  | number a, number b => a.sameAs b
  | lookup a, lookup b => a.alike b
  | not a, not b => a.alike b
  | binary op l r, binary op' l' r' => op == op' && l.alike l' && r.alike r'
  | _, _ => false

theorem size_pos (e : Expr) : 0 < e.size := by
  cases e <;> simp only [size] <;> omega

theorem size_eq_of_alike {a b : Expr} (h : a.alike b = true) : a.size = b.size := by
  fun_induction alike a b with
  | case1 => rfl
  | case2 => rfl
  | case3 a b ih => simp [size, ih h]
  | case4 a b ih => simp [size, ih h]
  | case5 op l r op' l' r' ihl ihr =>
    simp only [Bool.and_eq_true] at h
    simp [size, ihl h.1.2, ihr h.2]
  | case6 => simp at h

end Expr

end DialogGate
