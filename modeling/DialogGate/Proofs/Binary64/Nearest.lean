import DialogGate.Binary64.Basic
import Mathlib.Order.Monotone.Basic
import Mathlib.Tactic.Ring

/-! # The nearest magnitude

A magnitude is a significand and the power of two that its last bit counts (`exists_significand`),
and so the next magnitude always has more units (`units_strictMono`).

`Rounds num den m` says that `num / den` units lie between the midpoints on either side of the
magnitude `m`. No ratio lies so for two magnitudes (`Rounds.unique`), and it does for the one that
`nearest` computes (`rounds_rounded`); to know what a ratio is rounded to, it is therefore enough
to find a magnitude that it rounds to (`nearest_eq_of_rounds`).
-/

namespace DialogGate.Binary64

theorem exponentBit_eq : exponentBit = 2 ^ 52 := rfl

/-! ## Significands -/

/-- The units of a significand whose last bit counts `2 ^ s`; twice the lowest normal significand
belongs to the next power as well. -/
theorem units_significand {s h : Nat} (hlo : exponentBit ≤ h ∨ s = 0) (hhi : h ≤ 2 * exponentBit) :
    units (s * exponentBit + h) = h * 2 ^ s := by
  have he : 0 < exponentBit := by decide
  by_cases hlt : h < exponentBit
  · obtain rfl : s = 0 := hlo.resolve_left (by omega)
    rw [Nat.zero_mul, Nat.zero_add, Nat.pow_zero, Nat.mul_one, units, if_pos hlt]
  · rcases Nat.lt_or_eq_of_le hhi with hlt' | rfl
    · have hm : s * exponentBit + h = (h - exponentBit) + exponentBit * (s + 1) := by
        rw [Nat.mul_succ, Nat.mul_comm exponentBit s]
        omega
      rw [hm, units, if_neg (by rw [Nat.mul_succ]; omega), Nat.add_mul_mod_self_left,
        Nat.add_mul_div_left _ _ he, Nat.mod_eq_of_lt (by omega), Nat.div_eq_of_lt (by omega),
        Nat.shiftLeft_eq, Nat.zero_add, Nat.add_sub_cancel, Nat.add_sub_cancel' (by omega)]
    · have hm : s * exponentBit + 2 * exponentBit = 0 + exponentBit * (s + 2) := by
        rw [Nat.mul_add, Nat.mul_comm exponentBit s]
        omega
      rw [hm, units, if_neg (by rw [Nat.mul_add]; omega), Nat.add_mul_mod_self_left,
        Nat.add_mul_div_left _ _ he, Nat.zero_mod, Nat.zero_div, Nat.shiftLeft_eq, Nat.zero_add,
        Nat.add_zero, show s + 2 - 1 = s + 1 by omega, Nat.pow_succ]
      ring

theorem exists_significand (m : Nat) :
    ∃ s h, m = s * exponentBit + h ∧ (exponentBit ≤ h ∨ s = 0) ∧ h < 2 * exponentBit := by
  have he : 0 < exponentBit := by decide
  have hr := Nat.mod_lt m he
  by_cases hm : m < exponentBit
  · exact ⟨0, m, by omega, .inr rfl, by omega⟩
  · have hq : 1 ≤ m / exponentBit := (Nat.le_div_iff_mul_le he).2 (by omega)
    refine ⟨m / exponentBit - 1, exponentBit + m % exponentBit, ?_, .inl (by omega), by omega⟩
    have hd := Nat.div_add_mod m exponentBit
    have hs : m / exponentBit = (m / exponentBit - 1) + 1 := by omega
    rw [hs, Nat.mul_succ, Nat.mul_comm] at hd
    omega

theorem units_lt_succ (m : Nat) : units m < units (m + 1) := by
  obtain ⟨s, h, rfl, hlo, hhi⟩ := exists_significand m
  rw [Nat.add_assoc, units_significand hlo (Nat.le_of_lt hhi),
    units_significand (hlo.imp Nat.le_succ_of_le id) hhi]
  exact Nat.mul_lt_mul_of_pos_right (Nat.lt_succ_self h) (Nat.two_pow_pos s)

theorem units_strictMono : StrictMono units := strictMono_nat_of_lt_succ units_lt_succ

theorem units_zero : units 0 = 0 := rfl

/-! ## Halves -/

theorem le_halfEven (num den : Nat) : num / den ≤ halfEven num den := by
  unfold halfEven
  dsimp only
  split
  · exact Nat.le_refl _
  · split <;> omega

theorem halfEven_le (num den : Nat) : halfEven num den ≤ num / den + 1 := by
  unfold halfEven
  dsimp only
  split
  · omega
  · split <;> omega

section
variable {num den : Nat} (hd : 0 < den)
include hd

theorem halfEven_spec :
    2 * halfEven num den * den ≤ 2 * num + den ∧ 2 * num ≤ (2 * halfEven num den + 1) * den ∧
      (halfEven num den % 2 = 1 →
        2 * halfEven num den * den < 2 * num + den ∧ 2 * num < (2 * halfEven num den + 1) * den) := by
  have hn : den * (num / den) + num % den = num := Nat.div_add_mod num den
  have hr := Nat.mod_lt num hd
  rw [Nat.mul_comm] at hn
  unfold halfEven
  dsimp only
  split
  · rw [Nat.add_mul, Nat.mul_assoc]
    omega
  · split
    · rw [Nat.add_mul, Nat.mul_assoc, Nat.add_mul]
      omega
    · -- a tie: the even one of the two
      have hq : num / den % 2 = 0 ∨ num / den % 2 = 1 := by omega
      rcases hq with hq | hq
      · rw [hq, Nat.add_zero, Nat.add_mul, Nat.mul_assoc]
        omega
      · rw [hq, Nat.add_mul, Nat.mul_assoc, Nat.add_mul]
        omega

theorem halfEven_of_dvd (h : den ∣ num) : halfEven num den * den = num := by
  have hr : num % den = 0 := Nat.mod_eq_zero_of_dvd h
  unfold halfEven
  dsimp only
  rw [hr, if_pos (by omega)]
  exact Nat.div_mul_cancel h

end

/-! ## The range of a magnitude -/

/-- The ratio lies between the midpoints on either side of the magnitude, and on none of them if
the magnitude is odd. -/
structure Rounds (num den m : Nat) : Prop where
  lower : 0 < m → (units (m - 1) + units m) * den ≤ 2 * num
  upper : 2 * num ≤ (units m + units (m + 1)) * den
  strict : m % 2 = 1 → (units (m - 1) + units m) * den < 2 * num ∧
    2 * num < (units m + units (m + 1)) * den

namespace Rounds

variable {num den num' den' m m' : Nat}

/-- Only the ratio matters. -/
theorem congr (h : Rounds num den m) (hd : 0 < den) (hd' : 0 < den')
    (he : num * den' = num' * den) : Rounds num' den' m := by
  have hnum : 2 * num' * den = 2 * num * den' := by
    rw [Nat.mul_assoc, ← he, Nat.mul_assoc]
  have hle {a : Nat} : a * den' ≤ 2 * num' ↔ a * den ≤ 2 * num :=
    calc a * den' ≤ 2 * num'
      _ ↔ a * den' * den ≤ 2 * num' * den := (Nat.mul_le_mul_right_iff hd).symm
      _ ↔ a * den * den' ≤ 2 * num * den' := by rw [hnum, Nat.mul_right_comm a]
      _ ↔ a * den ≤ 2 * num := Nat.mul_le_mul_right_iff hd'
  have hge {a : Nat} : 2 * num' ≤ a * den' ↔ 2 * num ≤ a * den :=
    calc 2 * num' ≤ a * den'
      _ ↔ 2 * num' * den ≤ a * den' * den := (Nat.mul_le_mul_right_iff hd).symm
      _ ↔ 2 * num * den' ≤ a * den * den' := by rw [hnum, Nat.mul_right_comm a]
      _ ↔ 2 * num ≤ a * den := Nat.mul_le_mul_right_iff hd'
  refine ⟨fun hm => hle.2 (h.lower hm), hge.2 h.upper, fun hm => ?_⟩
  obtain ⟨h1, h2⟩ := h.strict hm
  rw [← Nat.not_le] at h1 h2 ⊢
  rw [← Nat.not_le]
  exact ⟨fun hn => h1 (hge.1 hn), fun hn => h2 (hle.1 hn)⟩

theorem not_lt (hd : 0 < den) (h : Rounds num den m) (h' : Rounds num den m') : ¬m < m' := by
  intro hlt
  have hlow := h'.lower (by omega)
  have hmono : units m + units (m + 1) ≤ units (m' - 1) + units m' :=
    Nat.add_le_add (units_strictMono.monotone (by omega)) (units_strictMono.monotone (by omega))
  by_cases hnext : m + 1 = m'
  · -- one of two neighbours is odd, and the ratio would be the midpoint between them
    subst hnext
    rw [Nat.add_sub_cancel] at hlow
    have hup := h.upper
    rcases Nat.mod_two_eq_zero_or_one m with hm | hm
    · have := (h'.strict (by omega)).1
      rw [Nat.add_sub_cancel] at this
      omega
    · have := (h.strict hm).2
      omega
  · have hgap : units m + units (m + 1) < units (m' - 1) + units m' :=
      Nat.add_lt_add (units_strictMono (by omega)) (units_strictMono (by omega))
    have := Nat.mul_lt_mul_of_pos_right hgap hd
    have hup := h.upper
    omega

/-- A ratio rounds to one magnitude only. -/
theorem unique (hd : 0 < den) (h : Rounds num den m) (h' : Rounds num den m') : m = m' := by
  have h1 := not_lt hd h h'
  have h2 := not_lt hd h' h
  omega

end Rounds

/-! ## What `nearest` computes -/

/-- The nearest magnitude, if there were no greatest one. -/
def rounded (num den : Nat) : Nat :=
  let shift := (num / den).log2 - 52
  shift * exponentBit + halfEven num (den <<< shift)

theorem nearest_eq (num den : Nat) : nearest num den = min infinite (rounded num den) := rfl

/-- The significand that is computed is one of its power of two. -/
theorem rounded_significand {num den : Nat} (hd : 0 < den) :
    ∃ s h, s = (num / den).log2 - 52 ∧ rounded num den = s * exponentBit + h ∧
      h = halfEven num (den * 2 ^ s) ∧ h ≤ 2 * exponentBit ∧
      (s = 0 ∨ exponentBit ≤ h ∧ exponentBit * 2 ^ s * den ≤ num) := by
  have hq : num / (den * 2 ^ ((num / den).log2 - 52)) =
      num / den / 2 ^ ((num / den).log2 - 52) := (Nat.div_div_eq_div_mul ..).symm
  refine ⟨(num / den).log2 - 52, _, rfl, rfl, by rw [Nat.shiftLeft_eq], ?_, ?_⟩
  · have hlt : num / den / 2 ^ ((num / den).log2 - 52) < 2 ^ 53 := by
      rw [Nat.div_lt_iff_lt_mul (Nat.two_pow_pos _), ← Nat.pow_add]
      refine Nat.lt_of_lt_of_le Nat.lt_log2_self (Nat.pow_le_pow_right (by decide) ?_)
      omega
    have hle := halfEven_le num (den * 2 ^ ((num / den).log2 - 52))
    rw [hq] at hle
    rw [Nat.shiftLeft_eq, exponentBit_eq, ← Nat.pow_succ']
    omega
  · by_cases hs : (num / den).log2 - 52 = 0
    · exact .inl hs
    · have hpos : num / den ≠ 0 := by
        intro h0
        rw [h0] at hs
        exact hs rfl
      have hlog : 2 ^ (52 + ((num / den).log2 - 52)) ≤ num / den := by
        rw [show 52 + ((num / den).log2 - 52) = (num / den).log2 by omega]
        exact Nat.log2_self_le hpos
      rw [Nat.pow_add, ← exponentBit_eq] at hlog
      refine .inr ⟨?_, (Nat.le_div_iff_mul_le hd).1 hlog⟩
      refine Nat.le_trans ?_ (le_halfEven _ _)
      rw [Nat.shiftLeft_eq, hq]
      exact (Nat.le_div_iff_mul_le (Nat.two_pow_pos _)).2 hlog

theorem rounds_rounded {num den : Nat} (hd : 0 < den) : Rounds num den (rounded num den) := by
  obtain ⟨s, h, -, hm, hh, hhi, hlo⟩ := rounded_significand hd
  have hpow : 0 < 2 ^ s := Nat.two_pow_pos s
  obtain ⟨hle, hge, hodd⟩ := @halfEven_spec num _ (Nat.mul_pos hd hpow)
  rw [← hh] at hle hge hodd
  have hsig : exponentBit ≤ h ∨ s = 0 := hlo.symm.imp And.left id
  have hu : units (rounded num den) = h * 2 ^ s := by rw [hm, units_significand hsig hhi]
  have hparity : rounded num den % 2 = h % 2 := by
    rw [hm, exponentBit_eq]
    omega
  -- the next magnitude is at least one step away, and two above the last significand
  have hnext : (h + 1) * 2 ^ s ≤ units (rounded num den + 1) := by
    rcases Nat.lt_or_eq_of_le hhi with hlt | rfl
    · rw [hm, Nat.add_assoc, units_significand (hsig.imp Nat.le_succ_of_le id) hlt]
    · have hm' : rounded num den + 1 = (s + 1) * exponentBit + (exponentBit + 1) := by
        rw [hm, Nat.succ_mul s]
        omega
      have he : 1 ≤ exponentBit := by decide
      rw [hm', units_significand (.inl (Nat.le_succ _)) (by omega), Nat.pow_succ',
        ← Nat.mul_assoc]
      exact Nat.mul_le_mul_right _ (by omega)
  have hup : (2 * h + 1) * (den * 2 ^ s) ≤
      (units (rounded num den) + units (rounded num den + 1)) * den := by
    rw [hu]
    calc (2 * h + 1) * (den * 2 ^ s) = (h * 2 ^ s + (h + 1) * 2 ^ s) * den := by ring
      _ ≤ (h * 2 ^ s + units (rounded num den + 1)) * den :=
        Nat.mul_le_mul_right _ (Nat.add_le_add_left hnext _)
  by_cases hbelow : s = 0 ∨ exponentBit < h
  · -- the magnitude below is one step away
    have hlow : 0 < rounded num den →
        (units (rounded num den - 1) + units (rounded num den)) * den + den * 2 ^ s =
          2 * h * (den * 2 ^ s) := by
      intro hpos
      have hh0 : 0 < h := by
        rcases hbelow with rfl | hlt
        · omega
        · omega
      have hm' : rounded num den - 1 = s * exponentBit + (h - 1) := by omega
      rw [hu, hm', units_significand (hbelow.symm.imp (by omega) id) (by omega)]
      obtain ⟨k, rfl⟩ : ∃ k, h = k + 1 := ⟨h - 1, by omega⟩
      rw [Nat.add_sub_cancel]
      ring
    refine ⟨fun hpos => ?_, Nat.le_trans hge hup, fun hm => ?_⟩
    · have := hlow hpos
      omega
    · have := hlow (by omega)
      have := hodd (by omega)
      omega
  · -- the magnitude below is half a step away, and the ratio is not below this one at all
    obtain ⟨hs, hhe⟩ := not_or.1 hbelow
    obtain ⟨hh', hnum⟩ := hlo.resolve_left hs
    obtain rfl : h = exponentBit := by omega
    have hmono := units_strictMono.monotone (Nat.sub_le (rounded num den) 1)
    refine ⟨fun _ => ?_, Nat.le_trans hge hup, fun hm => ?_⟩
    · calc (units (rounded num den - 1) + units (rounded num den)) * den
        _ ≤ (units (rounded num den) + units (rounded num den)) * den :=
          Nat.mul_le_mul_right _ (Nat.add_le_add_right hmono _)
        _ = 2 * (exponentBit * 2 ^ s * den) := by rw [hu]; ring
        _ ≤ 2 * num := Nat.mul_le_mul_left 2 hnum
    · rw [hparity] at hm
      exact absurd hm (by decide)

/-- What a ratio rounds to, if it rounds to a finite magnitude. -/
theorem nearest_eq_of_rounds {num den m : Nat} (hd : 0 < den) (h : Rounds num den m)
    (hm : m < infinite) : nearest num den = m := by
  rw [nearest_eq, (rounds_rounded hd).unique hd h]
  exact Nat.min_eq_right (Nat.le_of_lt hm)

/-! ## Whole numbers -/

theorem shiftLeft_dvd_two_pow {n s : Nat} (h : n ≤ s) : 1 <<< n ∣ 2 ^ s := by
  rw [Nat.one_shiftLeft]
  exact Nat.pow_dvd_pow 2 h

theorem two_pow_dvd_shiftLeft {n s : Nat} (h : s ≤ n) : 2 ^ s ∣ 1 <<< n := by
  rw [Nat.one_shiftLeft]
  exact Nat.pow_dvd_pow 2 h

/-- What is nearest to a whole number is whole, unless it is infinite. -/
theorem dvd_units_nearest {n : Nat} (h : nearest (n * one) 1 < infinite) :
    one ∣ units (nearest (n * one) 1) := by
  have hr : nearest (n * one) 1 = rounded (n * one) 1 := by
    rw [nearest_eq] at h ⊢
    omega
  obtain ⟨s, k, -, hm, hk, hhi, hlo⟩ := @rounded_significand (n * one) 1 Nat.one_pos
  rw [hr, hm, units_significand (hlo.symm.imp And.left id) hhi]
  by_cases hs : 1074 ≤ s
  · exact Nat.dvd_trans (shiftLeft_dvd_two_pow hs) (Nat.dvd_mul_left _ _)
  · -- nothing is rounded off
    have hdvd : 1 * 2 ^ s ∣ n * one := by
      rw [Nat.one_mul]
      exact Nat.dvd_trans (two_pow_dvd_shiftLeft (by omega)) (Nat.dvd_mul_left _ _)
    have hexact := halfEven_of_dvd (Nat.mul_pos Nat.one_pos (Nat.two_pow_pos s)) hdvd
    rw [← hk, Nat.one_mul] at hexact
    rw [hexact]
    exact Nat.dvd_mul_left _ _

end DialogGate.Binary64
