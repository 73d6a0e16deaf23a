import DialogGate.Expr.ParseError
import DialogGate.Operator.Occurrence

/-! # A cursor over a text

A cursor looks for the operator that a text is cut at, from its position onwards, and is left
behind what it has read: at the end of the text, or at the first `(` that is never closed. It can be
asked again, and in between for the `)` that closes a `(` (`run`).

* `loosest_of_atEnd`: at the end there is nothing left to find.
-/

namespace DialogGate

/-- A text and how far it has been read. -/
structure Cursor where
  text : Text
  position : Nat
  deriving DecidableEq, Repr

namespace Cursor

/-- The cursor at the front of a text. -/
def start (text : Text) : Cursor := ⟨text, 0⟩

/-- The loosest operator outside parentheses from the position onwards, and the cursor behind what
was read for it. -/
def loosest (c : Cursor) : Except ParseError (Option Occurrence) × Cursor :=
  match Occurrence.outside c.position (c.text.drop c.position) with
  | .ok found => (.ok (Occurrence.loosest? found), ⟨c.text, c.text.length⟩)
  | .error position => (.error (.unterminated c.text position), ⟨c.text, position⟩)

/-- The position of the `)` that closes the `(` at `start`. This is meant for the position of a `(`
only. From elsewhere the search goes on to the first `(` behind, and over every `)` before it, where
a count of the open parentheses would fall below zero. -/
def closing (c : Cursor) (start : Nat) : Except ParseError Nat :=
  match closing? (c.text.drop start) with
  | some n => .ok (start + n)
  | none => .error (.unterminated c.text start)

/-- What a cursor can be asked for. -/
inductive Query where
  | loosest
  /-- For the `)` of the `(` at `start`. -/
  | closing (start : Nat)
  deriving DecidableEq, Repr

/-- What a cursor answers. -/
inductive Answer where
  | loosest (found : Except ParseError (Option Occurrence))
  | closing (found : Except ParseError Nat)

/-- Answers one query. Only a search for an operator moves the cursor. -/
def ask (c : Cursor) : Query → Answer × Cursor
  | .loosest => (.loosest c.loosest.1, c.loosest.2)
  | .closing start => (.closing (c.closing start), c)

/-- Answers queries one after the other; also the cursor as they leave it. -/
def run (c : Cursor) : List Query → List Answer × Cursor
  | [] => ([], c)
  | first :: later =>
    let (answer, next) := c.ask first
    let (answers, last) := next.run later
    (answer :: answers, last)

theorem loosest_of_atEnd {c : Cursor} (h : c.position = c.text.length) :
    c.loosest = (.ok none, c) := by
  obtain ⟨text, position⟩ := c
  simp only at h
  subst h
  simp [loosest, Occurrence.outside, Occurrence.loosest?]

end Cursor

end DialogGate
