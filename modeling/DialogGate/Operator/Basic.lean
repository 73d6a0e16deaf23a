import DialogGate.Text.Basic

/-! # Operators

The fourteen binary operators and the prefix negation, with their spelling and their precedence;
a higher precedence binds tighter.

* `atFront?_symbol`: every spelling is read back.
* `symbol_injective`: no two operators are spelled alike.
* `symbol_prefix_of_atFront?`: what is read at the front of a text is spelled there.
-/

namespace DialogGate

/-- The binary operators, loosest first. -/
inductive BinaryOp where
  | or | and
  | equal | notEqual
  | less | greater | lessEqual | greaterEqual
  | add | subtract
  | multiply | divide | modulo
  | power
  deriving DecidableEq, Repr

/-- A binary operator or the prefix negation. -/
inductive Operator where
  | not
  | binary (op : BinaryOp)
  deriving DecidableEq, Repr

namespace BinaryOp

/-- How the operator is spelled. -/
def symbol : BinaryOp → Text
  | or => ['|', '|']
  | and => ['&', '&']
  | equal => ['=', '=']
  | notEqual => ['!', '=']
  | less => ['<']
  | greater => ['>']
  | lessEqual => ['<', '=']
  | greaterEqual => ['>', '=']
  | add => ['+']
  | subtract => ['-']
  | multiply => ['*']
  | divide => ['/']
  | modulo => ['%']
  | power => ['*', '*']

/-- How tightly the operator binds. -/
def precedence : BinaryOp → Nat
  | or => 3
  | and => 4
  | equal | notEqual => 8
  | less | greater | lessEqual | greaterEqual => 9
  | add | subtract => 11
  | multiply | divide | modulo => 12
  | power => 13

/-- Operators of this precedence group to the right; all others group to the left. -/
def groupsRight (op : BinaryOp) : Bool := op = power

end BinaryOp

namespace Operator

/-- How the operator is spelled. -/
def symbol : Operator → Text
  | not => ['!']
  | binary op => op.symbol

/-- How tightly the operator binds; negation binds tightest. -/
def precedence : Operator → Nat
  | not => 14
  | binary op => op.precedence

/-- The length of the spelling. -/
def width (op : Operator) : Nat := op.symbol.length

/-- Of equally tight operators, the later one is the one to cut at. It is the first one for those
that group to the right and for negation. -/
def laterWins : Operator → Bool
  | not => false
  | binary op => !op.groupsRight

/-- The operator spelled with two characters. -/
def ofPair? : Char → Char → Option Operator
  | '|', '|' => some (binary .or)
  | '&', '&' => some (binary .and)
  | '=', '=' => some (binary .equal)
  | '!', '=' => some (binary .notEqual)
  | '<', '=' => some (binary .lessEqual)
  | '>', '=' => some (binary .greaterEqual)
  | '*', '*' => some (binary .power)
  | _, _ => none

/-- The operator spelled with one character. -/
def ofChar? : Char → Option Operator
  | '!' => some not
  | '<' => some (binary .less)
  | '>' => some (binary .greater)
  | '+' => some (binary .add)
  | '-' => some (binary .subtract)
  | '*' => some (binary .multiply)
  | '/' => some (binary .divide)
  | '%' => some (binary .modulo)
  | _ => none

/-- The operator at the front of a text; a spelling of two characters goes first. -/
def atFront? : Text → Option Operator
  | [] => none
  | [c] => ofChar? c
  | c :: d :: _ => (ofPair? c d).or (ofChar? c)

theorem width_pos (op : Operator) : 0 < op.width := by
  rcases op with _ | op
  · decide
  · cases op <;> decide

theorem atFront?_symbol (op : Operator) : atFront? op.symbol = some op := by
  rcases op with _ | op
  · rfl
  · cases op <;> rfl

theorem symbol_injective {a b : Operator} (h : a.symbol = b.symbol) : a = b := by
  have := congrArg atFront? h
  simpa [atFront?_symbol] using this

theorem ofChar?_eq_some {c : Char} {op : Operator} (h : ofChar? c = some op) :
    op.symbol = [c] := by
  unfold ofChar? at h
  split at h <;> simp_all <;> subst h <;> rfl

theorem ofPair?_eq_some {c d : Char} {op : Operator} (h : ofPair? c d = some op) :
    op.symbol = [c, d] := by
  unfold ofPair? at h
  split at h <;> simp_all <;> subst h <;> rfl

/-- The operator found at the front is spelled there. -/
theorem symbol_prefix_of_atFront? {text : Text} {op : Operator} (h : atFront? text = some op) :
    op.symbol <+: text := by
  match text with
  | [] => simp [atFront?] at h
  | [c] => exact ⟨[], by simp [ofChar?_eq_some h]⟩
  | c :: d :: rest =>
    simp only [atFront?, Option.or_eq_some_iff] at h
    rcases h with h | ⟨-, h⟩
    · exact ⟨rest, by simp [ofPair?_eq_some h]⟩
    · exact ⟨d :: rest, by simp [ofChar?_eq_some h]⟩

theorem width_le_of_atFront? {text : Text} {op : Operator} (h : atFront? text = some op) :
    op.width ≤ text.length :=
  (symbol_prefix_of_atFront? h).length_le

end Operator

end DialogGate
