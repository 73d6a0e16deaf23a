import DialogGate.Binary64.Basic

/-! # Arithmetic

Sums, differences, products, quotients and powers of numbers, each rounded as the machine rounds
them. The remainder is exact, and is found on whole units.

* `ofFloat`, `toFloat`: the machine's number with the same bits. The machine has one undefined
  number, without a sign.
-/

namespace DialogGate.Binary64

/-- The bits of a number. -/
def bits (x : Binary64) : Nat := if x.negative then signBit + x.magnitude else x.magnitude

/-- The number with the bits of the machine's number. -/
def ofFloat (x : Float) : Binary64 :=
  let bits := x.toBits.toNat
  ofMagnitude (signBit ≤ bits) (bits % signBit)

/-- The machine's number with the same bits. -/
def toFloat (x : Binary64) : Float := Float.ofBits (UInt64.ofNat x.bits)

instance : Add Binary64 := ⟨fun x y => ofFloat (x.toFloat + y.toFloat)⟩

instance : Sub Binary64 := ⟨fun x y => ofFloat (x.toFloat - y.toFloat)⟩

instance : Mul Binary64 := ⟨fun x y => ofFloat (x.toFloat * y.toFloat)⟩

instance : Div Binary64 := ⟨fun x y => ofFloat (x.toFloat / y.toFloat)⟩

/-- The power of a number. -/
def power (x y : Binary64) : Binary64 := ofFloat (Float.pow x.toFloat y.toFloat)

/-- What remains of `x` after taking away the largest whole multiple of `y` that is not beyond it;
it has the sign of `x`. -/
def remainder (x y : Binary64) : Binary64 :=
  if x.isFinite ∧ y.magnitude = infinite then x
  else if x.isFinite ∧ 0 < y.magnitude ∧ y.isFinite then
    ofRatio x.negative (units x.magnitude % units y.magnitude) 1
  else nan

end DialogGate.Binary64
