import DialogGate.Text.Basic

/-! # Plain text

`plain` takes out of a text what a terminal acts on instead of printing it: control characters and
control sequences. A sequence is begun by the escape character and ended as its kind demands; one
that is not ended takes in the rest of the text.

Line controls inside an escape or control sequence are kept. What stands behind them is kept as
well, up to the next character that is not printed; there the sequence goes on.

* `plain_sublist`: characters are only ever taken out.
* `plain_eq_self`: a text of printed characters alone stays as it is.
-/

namespace DialogGate.Text

/-- The controls that lay out lines: tab, line feed, form feed and carriage return. -/
def isLineControl (c : Char) : Bool := c = '\t' || c = '\n' || c = '\x0c' || c = '\r'

/-- What stands in plain text: line controls, the space, visible ASCII and all that is not ASCII. -/
def isPrinted (c : Char) : Bool := isLineControl c || 0x20 ≤ c.toNat && c ≠ '\x7f'

/-- The control string terminator is this byte, on its own or inside a character. -/
def endsString (c : Char) : Bool := (String.utf8EncodeChar c).contains 0x9C

/-- What the characters so far have begun. -/
inductive Sequence where
  /-- No sequence. -/
  | none
  /-- The escape character. -/
  | escape
  /-- An escape sequence with intermediate characters. -/
  | intermediate
  /-- A control sequence: parameters up to a final character. -/
  | control
  /-- An operating system command, which the bell ends. -/
  | command
  /-- A device control string before its parameters. -/
  | device
  /-- A device control string among its parameters. -/
  | deviceParameter
  /-- A device control string among its intermediate characters. -/
  | deviceIntermediate
  /-- The inside of a string, which its terminator ends. -/
  | string
  deriving DecidableEq, Repr

namespace Sequence

/-- What the character behind the escape character begins. -/
def ofKind (c : Char) : Sequence :=
  if c = '[' then control
  else if c = ']' then command
  else if c = 'P' then device
  else if c = 'X' ∨ c = '^' ∨ c = '_' then string
  else if ' ' ≤ c ∧ c ≤ '/' then intermediate
  else if '0' ≤ c ∧ c ≤ '~' then none
  else escape

/-- What has been begun behind a character that is not printed. The characters U+0018 and U+001A
end every sequence, and the escape character begins a new one. -/
def next (s : Sequence) (c : Char) : Sequence :=
  if c = '\x18' ∨ c = '\x1a' then none
  else if c = '\x1b' then escape
  else match s with
    | none => none
    | escape => ofKind c
    | intermediate => if '0' ≤ c ∧ c ≤ '~' then none else intermediate
    | control => if '@' ≤ c ∧ c ≤ '~' then none else control
    | command => if c = '\x07' then none else command
    | device =>
      if ' ' ≤ c ∧ c ≤ '/' then deviceIntermediate
      else if '0' ≤ c ∧ c ≤ '?' then deviceParameter
      else if '@' ≤ c ∧ c ≤ '~' then string
      else device
    | deviceParameter =>
      if ' ' ≤ c ∧ c ≤ '/' then deviceIntermediate
      else if '<' ≤ c ∧ c ≤ '~' then string
      else deviceParameter
    | deviceIntermediate => if '0' ≤ c ∧ c ≤ '~' then string else deviceIntermediate
    | string => if endsString c then none else string

/-- Line controls inside the sequence are printed. -/
def letsThrough : Sequence → Bool
  | none | escape | intermediate | control => true
  | _ => false

/-- A character at the front of what follows `s` is printed; `paused` says that a line control has
interrupted the sequence. -/
def prints (s : Sequence) (paused : Bool) (c : Char) : Bool :=
  (s = none || paused) && isPrinted c || s.letsThrough && isLineControl c

end Sequence

/-- The plain text of what follows the beginning of a sequence. A character beyond ASCII ends a
sequence that has been interrupted. -/
def plainFrom (s : Sequence) (paused : Bool) : Text → Text
  | [] => []
  | c :: rest =>
    if s.prints paused c then
      c :: plainFrom (if c.toNat < 0x80 then s else .none) true rest
    else plainFrom (s.next c) false rest

/-- The text without control characters and control sequences. -/
def plain (text : Text) : Text := plainFrom .none false text

theorem plainFrom_sublist (s : Sequence) (paused : Bool) (text : Text) :
    (plainFrom s paused text).Sublist text := by
  fun_induction plainFrom s paused text with
  | case1 => exact .slnil
  | case2 s paused c rest _ ih => exact ih.cons_cons c
  | case3 s paused c rest _ ih => exact ih.cons c

theorem plain_sublist (text : Text) : (plain text).Sublist text := plainFrom_sublist _ _ text

theorem plain_eq_self {text : Text} (h : ∀ c ∈ text, isPrinted c = true) : plain text = text := by
  suffices ∀ paused, plainFrom .none paused text = text from this false
  induction text with
  | nil => exact fun _ => rfl
  | cons c rest ih =>
    intro paused
    have hc : Sequence.none.prints paused c = true := by
      simp [Sequence.prints, h c (.head _)]
    rw [plainFrom, if_pos hc, ite_self, ih fun d hd => h d (.tail _ hd)]

end DialogGate.Text
