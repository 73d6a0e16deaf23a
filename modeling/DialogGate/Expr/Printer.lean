import DialogGate.Binary64.Layout
import DialogGate.Expr.Basic

/-! # The canonical form

`Expr.text` writes a tree as a condition in which every binary operation has its parentheses, with
one space on either side of the operator. A negative number is put into parentheses as well, since
next to an operator its sign would be read as a subtraction; so is an undefined one of negative
sign, though its sign is not written.
-/

namespace DialogGate.Expr

/-- A text in parentheses. -/
def enclosed (inner : Text) : Text := '(' :: inner ++ [')']

/-- A boolean as a word. -/
def booleanText (b : Bool) : Text := (if b then "true" else "false").toList

/-- The canonical form. -/
def text : Expr → Text
  | boolean b => booleanText b
  | number x => if x.negative then enclosed x.text else x.text
  | lookup index => "\\v[".toList ++ index.text ++ [']']
  | not operand => '!' :: operand.text
  | binary op left right => enclosed (left.text ++ ' ' :: op.symbol ++ ' ' :: right.text)

end DialogGate.Expr
