import DialogGate.Text.Visible

/-! # Quoted text

`quoted` writes a text between double quotes so that it stays on one line and can be told apart
from its surroundings: a quote and a backslash get a backslash, the four usual controls their
letter, and every other character that is not visible its code point in hexadecimal.
-/

namespace DialogGate.Text

/-- A character by its code point, such as `\u{a0}`. -/
def codePoint (c : Char) : Text :=
  "\\u\x7b".toList ++ Nat.toDigits 16 c.toNat ++ "\x7d".toList

/-- How one character stands inside the quotes. -/
def quotedChar (c : Char) : Text :=
  if c = '"' ∨ c = '\\' then ['\\', c]
  else if c = '\n' then "\\n".toList
  else if c = '\r' then "\\r".toList
  else if c = '\t' then "\\t".toList
  else if c = '\x00' then "\\0".toList
  else if isVisible c then [c]
  else codePoint c

/-- The text between double quotes. -/
def quoted (text : Text) : Text := '"' :: text.flatMap quotedChar ++ ['"']

end DialogGate.Text
