import DialogGate.Text.Basic
import DialogGate.Operator.Basic

/-! # Why a condition cannot be read

The causes, and the sentence that tells an author about each (`ParseError.message`).
-/

namespace DialogGate

/-- Why a text is not a condition. -/
inductive ParseError where
  /-- Nothing but white space. -/
  | empty
  /-- The `(` at `position` of `expression` is never closed. -/
  | unterminated (expression : Text) (position : Nat)
  /-- Parentheses with nothing but white space inside. -/
  | emptyGroup
  /-- Something stands to the left of a negation. -/
  | unexpected (before text : Text)
  /-- Nothing but white space stands where `op` needs an operand. -/
  | missingOperand (op : Operator) (text : Text)
  /-- No operator to cut at, and neither a literal nor a variable. -/
  | unreadable (text : Text)
  deriving DecidableEq, Repr

namespace ParseError

/-- A text between backquotes. -/
def ticked (text : Text) : Text := '\x60' :: text ++ ['\x60']

/-- The sentence for an author. -/
def message : ParseError → Text
  | empty => "empty expression".toList
  | unterminated expression position =>
    "unterminated parenthesis at position ".toList ++ Text.ofNat position ++ " in ".toList ++
      ticked expression
  | emptyGroup => "malformed expression: empty parentheses".toList
  | unexpected before text =>
    "malformed expression: unexpected ".toList ++ ticked before ++ " before ".toList ++
      ticked ['!'] ++ " in ".toList ++ ticked text
  | missingOperand op text =>
    "malformed expression: missing operand for ".toList ++ ticked op.symbol ++ " in ".toList ++
      ticked text
  | unreadable text => "malformed expression: ".toList ++ text

end ParseError

end DialogGate
