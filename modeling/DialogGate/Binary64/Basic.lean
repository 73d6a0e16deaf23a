/-! # Binary64 numbers

The numbers of conditions have the IEEE 754 binary64 format: a sign and a *magnitude*, which is the
bits without the sign. Everything that has to be exact about them is done on natural numbers:

* magnitudes are ordered as the numbers are; those below `infinite` are finite, `infinite` itself is
  infinity, and `undefined` is no number. An undefined number has a sign as well, but it is neither
  below, above nor the same as anything;
* every finite magnitude is a whole number of *units* of `2 ^ -1074` (`units`), and `nearest` finds
  the magnitude that is nearest to a ratio of units, the even one of two equally near ones.

`nearest_units_of_lt` says that a magnitude below `2 ^ 53` is nearest to its own units, and
`sameAs_iff` that two numbers are the same if they are equal or both zero, unless undefined.
-/

namespace DialogGate

namespace Binary64

/-- The sign bit, `2 ^ 63`. -/
def signBit : Nat := 0x8000000000000000

/-- The lowest bit of the exponent field, `2 ^ 52`; in a significand, the bit that is not stored. -/
def exponentBit : Nat := 0x10000000000000

/-- The magnitude of infinity: a full exponent field. -/
def infinite : Nat := 0x7FF0000000000000

/-- The magnitude of an undefined number: a full exponent field and the first bit behind it. -/
def undefined : Nat := 0x7FF8000000000000

end Binary64

/-- A sign and a magnitude. One magnitude stands for all undefined numbers. -/
structure Binary64 where
  negative : Bool
  magnitude : Nat
  magnitude_valid : magnitude ≤ Binary64.infinite ∨ magnitude = Binary64.undefined
  deriving DecidableEq, Repr

namespace Binary64

/-- The number with the given sign and magnitude; above infinity it is undefined. -/
def ofMagnitude (negative : Bool) (m : Nat) : Binary64 :=
  if h : m ≤ infinite then ⟨negative, m, .inl h⟩ else ⟨negative, undefined, .inr rfl⟩

/-- Not undefined. -/
def isDefined (x : Binary64) : Bool := x.magnitude ≤ infinite

/-- Neither infinite nor undefined. -/
def isFinite (x : Binary64) : Bool := x.magnitude < infinite

/-- The undefined number that arithmetic gives. -/
def nan : Binary64 := ⟨false, undefined, .inr rfl⟩

/-- The number with the other sign. -/
def negate (x : Binary64) : Binary64 := { x with negative := !x.negative }

/-! ## Order -/

/-- The place of a number in the order of all numbers. Zero and negative zero share one place. -/
def rank (x : Binary64) : Int := if x.negative then -(x.magnitude : Int) else x.magnitude

/-- Equal as numbers are: zero is the same as negative zero, an undefined number as nothing. -/
def sameAs (x y : Binary64) : Bool := x.isDefined && y.isDefined && x.rank == y.rank

/-- Less, both being defined. -/
def isBelow (x y : Binary64) : Bool := x.isDefined && y.isDefined && x.rank < y.rank

/-- Less or the same, both being defined. -/
def isAtMost (x y : Binary64) : Bool := x.isDefined && y.isDefined && x.rank ≤ y.rank

theorem isDefined_of_isFinite {x : Binary64} (h : x.isFinite = true) : x.isDefined = true := by
  simp only [isFinite, decide_eq_true_eq] at h
  simp only [isDefined, decide_eq_true_eq]
  exact Nat.le_of_lt h

theorem rank_eq_iff {x y : Binary64} :
    x.rank = y.rank ↔ x = y ∨ x.magnitude = 0 ∧ y.magnitude = 0 := by
  obtain ⟨n, m, h⟩ := x
  obtain ⟨n', m', h'⟩ := y
  cases n <;> cases n' <;> simp [rank] <;> omega

theorem sameAs_iff {x y : Binary64} :
    x.sameAs y = true ↔
      x.isDefined = true ∧ (x = y ∨ x.magnitude = 0 ∧ y.magnitude = 0) := by
  simp only [sameAs, Bool.and_eq_true, beq_iff_eq, rank_eq_iff]
  constructor
  · exact fun ⟨⟨hx, _⟩, h⟩ => ⟨hx, h⟩
  · rintro ⟨hx, h⟩
    refine ⟨⟨hx, ?_⟩, h⟩
    rcases h with rfl | ⟨-, h⟩
    · exact hx
    · simp [isDefined, h]

/-! ## Units -/

/-- How many units of `2 ^ -1074` make one. -/
def one : Nat := 1 <<< 1074

/-- A finite magnitude as a whole number of units; on `infinite` and above, the same formula. -/
def units (m : Nat) : Nat :=
  if m < exponentBit then m
  else (exponentBit + m % exponentBit) <<< (m / exponentBit - 1)

/-- The quotient rounded to the nearest whole number, to the even one of two equally near ones. -/
def halfEven (num den : Nat) : Nat :=
  let q := num / den
  let r := num % den
  if 2 * r < den then q else if den < 2 * r then q + 1 else q + q % 2

/-- The magnitude nearest to `num / den` units, the even one of two equally near ones. -/
def nearest (num den : Nat) : Nat :=
  let shift := (num / den).log2 - 52
  min infinite (shift * exponentBit + halfEven num (den <<< shift))

theorem nearest_le (num den : Nat) : nearest num den ≤ infinite := Nat.min_le_left _ _

/-- The number nearest to `num / den` units; beyond the finite range it is infinite. -/
def ofRatio (negative : Bool) (num den : Nat) : Binary64 :=
  ⟨negative, nearest num den, .inl (nearest_le num den)⟩

/-- The number nearest to a whole number. -/
def ofInt (n : Int) : Binary64 := ofRatio (n < 0) (n.natAbs * one) 1

/-- The number nearest to a natural number. -/
def ofNat (n : Nat) : Binary64 := ofRatio false (n * one) 1

/-- The natural number that a number is equal to, if there is one; negative zero is zero. -/
def toNat? (x : Binary64) : Option Nat :=
  let u := units x.magnitude
  if x.isFinite ∧ (x.negative → u = 0) ∧ u % one = 0 then some (u / one) else none

/-! ## Rounding is exact where it can be -/

theorem halfEven_one (n : Nat) : halfEven n 1 = n := by
  simp [halfEven, Nat.mod_one]

theorem units_of_lt {m : Nat} (h : m < 2 * exponentBit) : units m = m := by
  unfold units
  split
  · rfl
  · next hm =>
    simp only [exponentBit] at *
    have hd : m / 0x10000000000000 - 1 = 0 := by omega
    rw [hd, Nat.shiftLeft_zero]
    omega

theorem nearest_units_of_lt {m : Nat} (h : m < 2 * exponentBit) : nearest (units m) 1 = m := by
  rw [units_of_lt h]
  have hs : m.log2 - 52 = 0 := by
    rcases Nat.eq_zero_or_pos m with rfl | h0
    · rfl
    · have : m.log2 < 53 := (Nat.log2_lt (Nat.ne_of_gt h0)).2 h
      omega
  have hi : m ≤ infinite := by
    simp only [infinite, exponentBit] at *
    omega
  simp only [nearest, Nat.div_one, hs, Nat.shiftLeft_zero, halfEven_one, Nat.zero_mul,
    Nat.zero_add, Nat.min_eq_right hi]

end Binary64

end DialogGate
