import DialogGate.Binary64.Arithmetic
import DialogGate.Json.Basic

/-! # Reading JSON numbers

A number without fraction and exponent is a whole number if it fits a 64-bit word. Any other number
is read as a double in two steps, which is quick but not always the nearest: its leading digits, as
many as fit a 64-bit word, are converted, and the result is scaled by a power of ten.

* `length_lt_of_atFront?`: a number takes at least one character off the front of a text.
-/

namespace DialogGate.JsonNumber

/-- The largest 64-bit word, `2 ^ 64 - 1`. -/
def lastWord : Nat := 0xFFFFFFFFFFFFFFFF

/-- Appends digits to a number as long as it fits a 64-bit word; also how many digits do not. -/
def fill (n : Nat) : List Nat → Nat × Nat
  | [] => (n, 0)
  | d :: ds => if 10 * n + d ≤ lastWord then fill (10 * n + d) ds else (n, ds.length + 1)

/-- The double nearest to `10 ^ k`. -/
def tenTo (k : Nat) : Binary64 := Binary64.ofDecimal false 1 k

/-- Scales a double by `10 ^ e`, by `10 ^ 308` at most at a time. There is no result beyond the
finite range. -/
def scale (x : Binary64) (e : Int) : Option Binary64 :=
  if e.natAbs ≤ 308 then
    if 0 ≤ e then
      let y := x * tenTo e.natAbs
      if y.isFinite then some y else none
    else some (x / tenTo e.natAbs)
  else if x.magnitude = 0 then some x
  else if 0 ≤ e then none
  else scale (x / tenTo 308) (e + 308)
termination_by e.natAbs
decreasing_by omega

/-- A number in its written parts; the digits are those before and those after the point. -/
structure Parts where
  negative : Bool
  whole : List Nat
  fraction : List Nat
  exponent : Option Int

/-- The number that is written, if it is in range. -/
def ofParts (p : Parts) : Option JsonNumber :=
  let (n, excess) := fill 0 p.whole
  let signed (x : Binary64) := JsonNumber.double (if p.negative then x.negate else x)
  if p.fraction.isEmpty && p.exponent.isNone && excess == 0 then
    if !p.negative then some (.whole n)
    else if 0 < n ∧ 2 * n ≤ lastWord + 1 then some (.whole (-n))
    else some (signed (Binary64.ofNat n))
  else
    let (m, unread) := fill n p.fraction
    let taken := p.fraction.length - unread
    (scale (Binary64.ofNat m) (excess - taken + p.exponent.getD 0)).map signed

/-! ## The written form -/

/-- The ASCII digits at the front. -/
def digits (text : Text) : List Nat :=
  (text.takeWhile fun c => (Text.digitValue? c).isSome).filterMap Text.digitValue?

/-- What follows the ASCII digits at the front. -/
def behindDigits (text : Text) : Text := text.dropWhile fun c => (Text.digitValue? c).isSome

/-- The number that digits denote. -/
def ofDigits (ds : List Nat) : Nat := ds.foldl (10 * · + ·) 0

/-- A fraction at the front: a point and at least one digit, or nothing. -/
def fraction? : Text → Option (List Nat × Text)
  | '.' :: rest =>
    if digits rest = [] then none else some (digits rest, behindDigits rest)
  | text => some ([], text)

/-- An exponent at the front: its mark, a sign or none, and at least one digit; or nothing. -/
def exponent? : Text → Option (Option Int × Text)
  | [] => some (none, [])
  | c :: rest =>
    if c = 'e' ∨ c = 'E' then
      let unsigned := (Numeral.unsign rest).2
      let n : Int := ofDigits (digits unsigned)
      if digits unsigned = [] then none
      else some (some (if (Numeral.unsign rest).1 then -n else n), behindDigits unsigned)
    else some (none, c :: rest)

/-- A minus sign at the front. -/
def isMinus : Text → Bool
  | '-' :: _ => true
  | _ => false

/-- What follows a minus sign at the front, or everything. -/
def unminus : Text → Text
  | '-' :: rest => rest
  | text => text

/-- A number at the front of a text, and what follows it. A whole part of several digits does not
start with zero. -/
def atFront? (text : Text) : Option (JsonNumber × Text) :=
  let whole := digits (unminus text)
  if whole = [] ∨ whole.head? = some 0 ∧ 1 < whole.length then none
  else
    (fraction? (behindDigits (unminus text))).bind fun (fraction, r) =>
      (exponent? r).bind fun (exponent, r) =>
        (ofParts ⟨isMinus text, whole, fraction, exponent⟩).map (·, r)

/-! ## What is read is taken off the front -/

theorem length_behindDigits_le (text : Text) : (behindDigits text).length ≤ text.length :=
  (List.dropWhile_suffix _).length_le

theorem length_behindDigits_lt {text : Text} (h : digits text ≠ []) :
    (behindDigits text).length < text.length := by
  have hs := List.takeWhile_append_dropWhile (p := fun c => (Text.digitValue? c).isSome)
    (l := text)
  have hl := congrArg List.length hs
  rw [List.length_append] at hl
  have ht : 0 < (text.takeWhile fun c => (Text.digitValue? c).isSome).length := by
    refine List.length_pos_iff.2 fun he => h ?_
    simp [digits, he]
  simp only [behindDigits]
  omega

theorem length_unsign_le (text : Text) : (Numeral.unsign text).2.length ≤ text.length := by
  unfold Numeral.unsign
  split <;> simp

theorem length_unminus_le (text : Text) : (unminus text).length ≤ text.length := by
  unfold unminus
  split <;> simp

theorem length_fraction?_le {text r : Text} {ds : List Nat} (h : fraction? text = some (ds, r)) :
    r.length ≤ text.length := by
  unfold fraction? at h
  split at h
  · next rest =>
    rw [Option.ite_none_left_eq_some] at h
    obtain ⟨-, h⟩ := h
    simp only [Option.some.injEq, Prod.mk.injEq] at h
    have := length_behindDigits_le rest
    simp only [← h.2, List.length_cons]
    omega
  · simp only [Option.some.injEq, Prod.mk.injEq] at h
    simp [h.2]

theorem length_exponent?_le {text r : Text} {e : Option Int} (h : exponent? text = some (e, r)) :
    r.length ≤ text.length := by
  unfold exponent? at h
  split at h
  · simp only [Option.some.injEq, Prod.mk.injEq] at h
    simp [← h.2]
  · next c rest =>
    by_cases hc : c = 'e' ∨ c = 'E'
    · simp only [if_pos hc, Option.ite_none_left_eq_some, Option.some.injEq, Prod.mk.injEq] at h
      have h1 := length_unsign_le rest
      have h2 := length_behindDigits_le (Numeral.unsign rest).2
      simp only [← h.2.2, List.length_cons]
      omega
    · simp only [if_neg hc, Option.some.injEq, Prod.mk.injEq] at h
      simp [← h.2]

theorem length_lt_of_atFront? {text r : Text} {n : JsonNumber} (h : atFront? text = some (n, r)) :
    r.length < text.length := by
  simp only [atFront?, Option.ite_none_left_eq_some, not_or] at h
  obtain ⟨⟨hw, -⟩, h⟩ := h
  obtain ⟨⟨ds, r1⟩, hf, h⟩ := Option.bind_eq_some_iff.1 h
  obtain ⟨⟨e, r2⟩, he, h⟩ := Option.bind_eq_some_iff.1 h
  obtain ⟨n', -, hn⟩ := Option.map_eq_some_iff.1 h
  simp only [Prod.mk.injEq] at hn
  obtain ⟨-, rfl⟩ := hn
  have h1 := length_behindDigits_lt hw
  have h2 := length_fraction?_le hf
  have h3 : r2.length ≤ r1.length := length_exponent?_le he
  have h4 := length_unminus_le text
  omega

end DialogGate.JsonNumber
