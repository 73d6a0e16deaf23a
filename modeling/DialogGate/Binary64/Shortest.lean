import DialogGate.Binary64.Basic

/-! # Shortest decimal digits

Every number between the two midpoints that surround a magnitude reads back as that magnitude (a
midpoint itself does if the magnitude is even). `shortest` picks the coarsest power of ten that has
a multiple among them, and of its multiples the nearest: the fewest digits that read back.

All quantities are natural numbers in units of `10 ^ -1074`; one unit of `2 ^ -1074` is
`5 ^ 1074` of them (`fives`), so every finite magnitude is a whole number of these as well, and the
search always ends with a hit.
-/

namespace DialogGate.Binary64

/-- How many units of `10 ^ -1074` one unit of `2 ^ -1074` has. -/
def fives : Nat := Nat.pow 5 1074

/-- Which of two equally near candidates is taken. -/
inductive Tie where
  /-- The larger one. -/
  | up
  /-- The one whose last digit is even. -/
  | even
  deriving DecidableEq, Repr

/-- Does twice the number `v` units of `10 ^ -1074` lie where numbers read back as `m`? -/
def readsBack (m v : Nat) : Bool :=
  let lower := (units (m - 1) + units m) * fives
  let upper := (units m + units (m + 1)) * fives
  if m % 2 = 0 then lower ≤ 2 * v && 2 * v ≤ upper else lower < 2 * v && 2 * v < upper

/-- The nearest multiple of `10 ^ k` that reads back as `m`, divided by `10 ^ k`. -/
def multiple? (tie : Tie) (m k : Nat) : Option Nat :=
  let grid := Nat.pow 10 k
  let value := units m * fives
  let below := value / grid
  let above := below + 1
  match readsBack m (below * grid), readsBack m (above * grid) with
  | true, false => some below
  | false, true => some above
  | false, false => none
  | true, true =>
    let twice := 2 * (value % grid)
    if twice < grid then some below
    else if grid < twice then some above
    else match tie with
      | .up => some above
      | .even => some (if below % 2 = 0 then below else above)

/-- The digits on the coarsest power of ten, from `10 ^ k` downwards, that reads back as `m`,
together with the exponent of that power. -/
def shortestFrom (tie : Tie) (m : Nat) : Nat → Nat × Nat
  | 0 => (units m * fives, 0)
  | k + 1 =>
    match multiple? tie m (k + 1) with
    | some digits => (digits, k + 1)
    | none => shortestFrom tie m k

/-- An exponent with `units m * fives < 10 ^ k`: binary digits count for `0.30103` decimal ones. -/
def exponentAbove (m : Nat) : Nat := (units m * fives).log2 * 30103 / 100000 + 2

/-- The fewest decimal digits that read back as the finite magnitude `m`, and the power of ten that
the last of them counts. -/
def shortest (tie : Tie) (m : Nat) : Nat × Int :=
  let found := shortestFrom tie m (exponentAbove m)
  (found.1, (found.2 : Int) - 1074)

end DialogGate.Binary64
