import DialogGate.Text.Digit
import DialogGate.Binary64.Basic

/-! # Decimals

A decimal is read exactly and rounded once. `ofDecimal` gives the number nearest to
`digits * 10 ^ exponent`; the two cuts for exponents far out of range only spare the powers of ten
that could not matter.

`Numeral` is the written form of a number in a condition: an optional sign, digits, and digits after
a point. Its digits may be of any script (`of?`), but only ASCII digits have a value (`value?`).
`ofScientific?` also takes an exponent and the names of the numbers that have no digits.
-/

namespace DialogGate.Binary64

/-- The number nearest to `digits * 10 ^ exponent`. -/
def ofDecimal (negative : Bool) (digits : Nat) (exponent : Int) : Binary64 :=
  if digits = 0 ∨ exponent < -400 - (digits.log2 : Int) then ofMagnitude negative 0
  else if 400 < exponent then ofMagnitude negative infinite
  else ofRatio negative (digits * Nat.pow 10 exponent.toNat * one) (Nat.pow 10 (-exponent).toNat)

end DialogGate.Binary64

namespace DialogGate

/-- The written form of a number: a sign, the digits before the point and those after it. -/
structure Numeral where
  negative : Bool
  whole : Text
  fraction : Text
  deriving DecidableEq, Repr

namespace Numeral

/-- Takes a sign off the front: whether it is a minus, and the rest. -/
def unsign : Text → Bool × Text
  | '-' :: rest => (true, rest)
  | '+' :: rest => (false, rest)
  | text => (false, text)

/-- Reads a whole text as a numeral: an optional sign, then digits with an optional point behind or
among them, or a point with digits behind it. -/
def of? (text : Text) : Option Numeral :=
  let (negative, unsigned) := unsign text
  let whole := unsigned.takeWhile Text.isDigit
  match unsigned.dropWhile Text.isDigit with
  | [] => if whole.isEmpty then none else some ⟨negative, whole, []⟩
  | c :: fraction =>
    if c = '.' && fraction.all Text.isDigit && !(whole.isEmpty && fraction.isEmpty) then
      some ⟨negative, whole, fraction⟩
    else none

/-- The number nearest to what ASCII digits denote, scaled by a power of ten. -/
def scaled? (n : Numeral) (exponent : Int) : Option Binary64 :=
  (Text.natOf? (n.whole ++ n.fraction)).map fun digits =>
    Binary64.ofDecimal n.negative digits (exponent - n.fraction.length)

/-- The number nearest to what ASCII digits denote; other digits have no value. -/
def value? (n : Numeral) : Option Binary64 := n.scaled? 0

end Numeral

namespace Binary64

/-- Reads an exponent: an optional sign and at least one ASCII digit. -/
def exponent? (text : Text) : Option Int :=
  let (negative, digits) := Numeral.unsign text
  if digits.isEmpty then none
  else (Text.natOf? digits).map fun n => if negative then -(n : Int) else n

/-- Reads a number that is written without digits, in any case of its letters. -/
def named? (text : Text) : Option Binary64 :=
  let (negative, name) := Numeral.unsign text
  let name := String.ofList (name.map Char.toLower)
  if name = "inf" ∨ name = "infinity" then some (ofMagnitude negative infinite)
  else if name = "nan" then some (ofMagnitude negative undefined)
  else none

/-- Reads a number in plain or scientific form, or one of the names of the infinite and undefined
numbers. -/
def ofScientific? (text : Text) : Option Binary64 :=
  let mark (c : Char) := c == 'e' || c == 'E'
  let numeral := Numeral.of? (text.takeWhile (!mark ·))
  match text.dropWhile (!mark ·) with
  | [] => (numeral.bind Numeral.value?).or (named? text)
  | _ :: rest => numeral.bind fun n => (exponent? rest).bind fun e => n.scaled? e

end Binary64

end DialogGate
