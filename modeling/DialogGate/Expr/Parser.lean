import DialogGate.Text.Keyword
import DialogGate.Expr.Cut

/-! # Reading a condition

`Expr.ofText` writes the keyword `not` as `!` and then reads the text by cutting it: at each level
the text is trimmed, `Cut.of` says what it is, and the parts are read in the same way, the left one
first. What a blank part means depends on the place where it stands (`Place`).

* `parseAt_blank`, `parseAt_error`, `parseAt_leaf`, `parseAt_group`, `parseAt_not`,
  `parseAt_binary`: what reading a piece of text comes to, for each thing that it can be.
-/

namespace DialogGate

namespace Occurrence

/-- The part of a text to the left of an operator. -/
def before (o : Occurrence) (text : Text) : Text := text.take o.offset

/-- The part of a text to the right of an operator. -/
def after (o : Occurrence) (text : Text) : Text := text.drop (o.offset + o.operator.width)

theorem length_before_lt {o : Occurrence} {text : Text} (h : o.offset < text.length) :
    (o.before text).length < text.length := by
  simp only [before, List.length_take]
  omega

theorem length_after_lt {o : Occurrence} {text : Text} (h : o.offset < text.length) :
    (o.after text).length < text.length := by
  have := o.operator.width_pos
  simp only [after, List.length_drop]
  omega

end Occurrence

/-- Where a piece of text stands in a condition. -/
inductive Place where
  /-- It is the condition. -/
  | whole
  /-- Inside parentheses. -/
  | group
  /-- Beside the operator that `text` is cut at. -/
  | operand (op : Operator) (text : Text)
  deriving DecidableEq, Repr

/-- What is wrong with a blank piece of text. -/
def Place.blankError : Place → ParseError
  | whole => .empty
  | group => .emptyGroup
  | operand op text => .missingOperand op text

namespace Expr

/-- Reads a piece of text in which every negation is written `!`. -/
def parseAt (place : Place) (text : Text) : Except ParseError Expr :=
  if Text.isBlank text then
    .error place.blankError
  else
    let trimmed := Text.trim text
    match _h : Cut.of trimmed with
    | .error e => .error e
    | .ok (.leaf e) => .ok e
    | .ok (.group inner) => parseAt .group inner
    | .ok (.split o) =>
      match o.operator with
      | .not =>
        if Text.isBlank (o.before trimmed) then
          (parseAt (.operand .not trimmed) (o.after trimmed)).map not
        else
          .error (.unexpected (Text.trim (o.before trimmed)) trimmed)
      | .binary op => do
        let left ← parseAt (.operand (.binary op) trimmed) (o.before trimmed)
        let right ← parseAt (.operand (.binary op) trimmed) (o.after trimmed)
        return binary op left right
termination_by text.length
decreasing_by
  all_goals have hl := Text.length_trim_le text
  · exact Nat.lt_of_lt_of_le (Cut.length_group_lt _h) hl
  · exact Nat.lt_of_lt_of_le (Occurrence.length_after_lt (Cut.offset_lt_of_split _h)) hl
  · exact Nat.lt_of_lt_of_le (Occurrence.length_before_lt (Cut.offset_lt_of_split _h)) hl
  · exact Nat.lt_of_lt_of_le (Occurrence.length_after_lt (Cut.offset_lt_of_split _h)) hl

/-- Reads a condition. -/
def ofText (raw : Text) : Except ParseError Expr := parseAt .whole (Text.spellNot raw)

/-! ## One level -/

theorem parseAt_blank {place : Place} {text : Text} (h : Text.isBlank text = true) :
    parseAt place text = .error place.blankError := by
  rw [parseAt, if_pos h]

theorem parseAt_error {place : Place} {text : Text} {e : ParseError}
    (hb : ¬Text.isBlank text = true) (h : Cut.of (Text.trim text) = .error e) :
    parseAt place text = .error e := by
  rw [parseAt, if_neg hb]
  dsimp only
  split <;> simp_all

theorem parseAt_leaf {place : Place} {text : Text} {e : Expr} (hb : ¬Text.isBlank text = true)
    (h : Cut.of (Text.trim text) = .ok (.leaf e)) : parseAt place text = .ok e := by
  rw [parseAt, if_neg hb]
  dsimp only
  split <;> simp_all

theorem parseAt_group {place : Place} {text inner : Text} (hb : ¬Text.isBlank text = true)
    (h : Cut.of (Text.trim text) = .ok (.group inner)) :
    parseAt place text = parseAt .group inner := by
  rw [parseAt, if_neg hb]
  dsimp only
  split <;> simp_all

theorem parseAt_not {place : Place} {text : Text} {n : Nat} (hb : ¬Text.isBlank text = true)
    (h : Cut.of (Text.trim text) = .ok (.split ⟨.not, n⟩)) :
    parseAt place text =
      if Text.isBlank (Occurrence.before ⟨.not, n⟩ (Text.trim text)) then
        (parseAt (.operand .not (Text.trim text))
          (Occurrence.after ⟨.not, n⟩ (Text.trim text))).map not
      else
        .error (.unexpected (Text.trim (Occurrence.before ⟨.not, n⟩ (Text.trim text)))
          (Text.trim text)) := by
  rw [parseAt, if_neg hb]
  dsimp only
  split <;> rename_i hc <;> rw [h] at hc <;> simp_all
  obtain rfl := hc
  rfl

theorem parseAt_binary {place : Place} {text : Text} {op : BinaryOp} {n : Nat}
    (hb : ¬Text.isBlank text = true)
    (h : Cut.of (Text.trim text) = .ok (.split ⟨.binary op, n⟩)) :
    parseAt place text = (do
      let left ← parseAt (.operand (.binary op) (Text.trim text))
        (Occurrence.before ⟨.binary op, n⟩ (Text.trim text))
      let right ← parseAt (.operand (.binary op) (Text.trim text))
        (Occurrence.after ⟨.binary op, n⟩ (Text.trim text))
      return binary op left right) := by
  rw [parseAt, if_neg hb]
  dsimp only
  split <;> rename_i hc <;> rw [h] at hc <;> simp_all
  obtain rfl := hc
  rfl

end Expr

end DialogGate
