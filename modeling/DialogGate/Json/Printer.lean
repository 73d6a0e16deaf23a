import DialogGate.Binary64.Layout
import DialogGate.Json.Basic

/-! # Writing JSON

`Json.text` writes a value without any white space, `Json.pretty` with one item a line, each level
indented by two spaces. Strings escape what they must and nothing else: the quote, the backslash and
the control characters below U+0020. Doubles are written in the layout `exchange`.
-/

namespace DialogGate.Json

/-- How one character stands inside a string. -/
def stringChar (c : Char) : Text :=
  if c = '"' ∨ c = '\\' then ['\\', c]
  else if c = '\x08' then "\\b".toList
  else if c = '\x0c' then "\\f".toList
  else if c = '\n' then "\\n".toList
  else if c = '\r' then "\\r".toList
  else if c = '\t' then "\\t".toList
  else if c.toNat < 0x20 then
    "\\u00".toList ++ (if c.toNat < 0x10 then ['0'] else []) ++ Nat.toDigits 16 c.toNat
  else [c]

/-- A string between quotes. -/
def stringText (t : Text) : Text := '"' :: t.flatMap stringChar ++ ['"']

/-- A whole number has no point, a double always has a point or an exponent. -/
def numberText : JsonNumber → Text
  | .whole n => if n < 0 then '-' :: Text.ofNat n.natAbs else Text.ofNat n.natAbs
  | .double x => Binary64.Layout.exchange.text x

/-- The break before an item that is indented by `depth` levels, if there are breaks. -/
def lineBreak (pretty : Bool) (depth : Nat) : Text :=
  if pretty then '\n' :: List.replicate (2 * depth) ' ' else []

mutual

/-- A value at `depth` levels of indentation. -/
def write (pretty : Bool) (depth : Nat) : Json → Text
  | null => "null".toList
  | boolean b => (if b then "true" else "false").toList
  | number n => numberText n
  | string t => stringText t
  | array [] => "[]".toList
  | array (first :: others) =>
    '[' :: lineBreak pretty (depth + 1) ++ write pretty (depth + 1) first ++
      writeItems pretty (depth + 1) others ++ lineBreak pretty depth ++ [']']
  | object [] => "\x7b\x7d".toList
  | object ((key, first) :: others) =>
    '\x7b' :: lineBreak pretty (depth + 1) ++ stringText key ++
      (if pretty then [':', ' '] else [':']) ++ write pretty (depth + 1) first ++
      writeFields pretty (depth + 1) others ++ lineBreak pretty depth ++ ['\x7d']

/-- The items of an array behind the first one. -/
def writeItems (pretty : Bool) (depth : Nat) : List Json → Text
  | [] => []
  | item :: others =>
    ',' :: lineBreak pretty depth ++ write pretty depth item ++ writeItems pretty depth others

/-- The fields of an object behind the first one. -/
def writeFields (pretty : Bool) (depth : Nat) : List (Text × Json) → Text
  | [] => []
  | (key, value) :: others =>
    ',' :: lineBreak pretty depth ++ stringText key ++
      (if pretty then [':', ' '] else [':']) ++ write pretty depth value ++
      writeFields pretty depth others

end

/-- The value without white space. -/
def text (j : Json) : Text := write false 0 j

/-- The value with one item a line. -/
def pretty (j : Json) : Text := write true 0 j

end DialogGate.Json
