import DialogGate.Text.Basic
import DialogGate.Binary64.Shortest

/-! # Written numbers

A `Layout` is a way of writing numbers with their shortest digits: which numbers are written
without an exponent, whether a whole number keeps `.0`, and which of two equally near digit strings
is taken. Two layouts are in use: `plain`, for values in messages and in canonical conditions, and
`exchange`, for answers to other programs.
-/

namespace DialogGate.Binary64

/-- A way of writing numbers. -/
structure Layout where
  /-- Which of two equally near digit strings is taken. -/
  tie : Tie
  /-- The exponent of the first digit lies where no exponent is written. -/
  positional : Int → Bool
  /-- A whole number written without an exponent ends in `.0`. -/
  keepsPoint : Bool

/-- The text of a value: never an exponent, no `.0`, and the larger of two equally near digit
strings. -/
def Layout.plain : Layout := ⟨.up, fun _ => true, false⟩

/-- The text of a number in a data exchange: positional from `1e-5` to below `1e16`, always with a
point or an exponent, and the even one of two equally near digit strings. -/
def Layout.exchange : Layout := ⟨.even, fun e => -5 ≤ e && e < 16, true⟩

namespace Layout

/-- Digits with the point after the first `places` of them, zeros filling what is missing. -/
def withPoint (keepsPoint : Bool) (digits : Text) (places : Int) : Text :=
  if places ≤ 0 then
    '0' :: '.' :: (List.replicate (-places).toNat '0' ++ digits)
  else if (digits.length : Int) ≤ places then
    digits ++ List.replicate (places.toNat - digits.length) '0' ++
      (if keepsPoint then ['.', '0'] else [])
  else
    digits.take places.toNat ++ '.' :: digits.drop places.toNat

/-- Digits with the point after the first of them and the exponent of that digit, signed. -/
def withExponent (digits : Text) (exponent : Int) : Text :=
  digits.take 1 ++ (if digits.length ≤ 1 then [] else '.' :: digits.drop 1) ++
    'e' :: (if exponent < 0 then '-' else '+') :: Text.ofNat exponent.natAbs

/-- A finite magnitude. -/
def ofMagnitude (layout : Layout) (m : Nat) : Text :=
  if m = 0 then
    if layout.keepsPoint then "0.0".toList else ['0']
  else
    let found := shortest layout.tie m
    let digits := Text.ofNat found.1
    let places := digits.length + found.2
    if layout.positional (places - 1) then
      withPoint layout.keepsPoint digits places
    else
      withExponent digits (places - 1)

/-- The text of a number; undefined numbers are written without their sign. -/
def text (layout : Layout) (x : Binary64) : Text :=
  let signed (t : Text) := if x.negative then '-' :: t else t
  if infinite < x.magnitude then "NaN".toList
  else if x.magnitude = infinite then signed "inf".toList
  else signed (layout.ofMagnitude x.magnitude)

end Layout

/-- The text of a value. -/
def text (x : Binary64) : Text := Layout.plain.text x

end DialogGate.Binary64
