import DialogGate.Proofs.Binary64.Nearest

/-! # Whole numbers in binary64

`nearestWhole n` is the whole number with 53 significant bits that is nearest to `n`; a number that
is read from `n` is equal to it (`toNat?_ofNat`). It is `n` itself exactly if all bits of `n` behind
the first 53 are zero (`nearestWhole_eq_self_iff`), and it lies between the same two powers of two
as `n` (`nearestWhole_bounds`).
-/

namespace DialogGate.Binary64

/-- The bits of a whole number that are rounded off: those behind the first 53. -/
def excess (n : Nat) : Nat := n.log2 - 52

/-- The multiple of `2 ^ excess n` nearest to `n`, the even one of two equally near ones. -/
def nearestWhole (n : Nat) : Nat := halfEven n (2 ^ excess n) * 2 ^ excess n

/-- The exponent is kept as a variable, so that the power is never computed. -/
theorem one_eq_two_pow : ∃ k, k = 1074 ∧ one = 2 ^ k := by
  obtain ⟨k, hk⟩ : ∃ k, k = 1074 := ⟨_, rfl⟩
  refine ⟨k, hk, ?_⟩
  rw [one, ← hk]
  exact Nat.one_shiftLeft k

theorem one_pos : 0 < one := by
  obtain ⟨k, -, hone⟩ := one_eq_two_pow
  exact hone ▸ Nat.two_pow_pos k

/-! ## Rounding a whole number -/

theorem halfEven_mul_right {c : Nat} (hc : 0 < c) (num den : Nat) :
    halfEven (num * c) (den * c) = halfEven num den := by
  have hlt {a b : Nat} : 2 * (a * c) < b * c ↔ 2 * a < b := by
    rw [← Nat.mul_assoc, Nat.mul_lt_mul_right hc]
  have hgt {a b : Nat} : b * c < 2 * (a * c) ↔ b < 2 * a := by
    rw [← Nat.mul_assoc, Nat.mul_lt_mul_right hc]
  simp only [halfEven, Nat.mul_div_mul_right _ _ hc, Nat.mul_mod_mul_right, hlt, hgt]

theorem log2_mul_one {n : Nat} (hn : n ≠ 0) : (n * one).log2 = n.log2 + 1074 := by
  obtain ⟨k, hk, hone⟩ := one_eq_two_pow
  have hne : n * one ≠ 0 := Nat.mul_ne_zero hn one_pos.ne'
  rw [← hk, Nat.log2_eq_iff hne, hone, Nat.pow_add, Nat.add_right_comm, Nat.pow_add]
  exact ⟨Nat.mul_le_mul_right _ (Nat.log2_self_le hn),
    Nat.mul_lt_mul_of_pos_right Nat.lt_log2_self (Nat.two_pow_pos _)⟩

theorem nearestWhole_eq_self_iff {n : Nat} : nearestWhole n = n ↔ 2 ^ excess n ∣ n := by
  constructor
  · intro h
    exact ⟨_, (h.symm.trans (Nat.mul_comm _ _))⟩
  · intro h
    exact halfEven_of_dvd (Nat.two_pow_pos _) h

/-- The units of what a whole number is rounded to, if there were no greatest magnitude. -/
theorem units_rounded (n : Nat) : units (rounded (n * one) 1) = nearestWhole n * one := by
  by_cases hn : n = 0
  · subst hn
    rw [Nat.zero_mul]
    rfl
  obtain ⟨s, h, hs, hm, hh, hhi, hlo⟩ := @rounded_significand (n * one) 1 Nat.one_pos
  obtain ⟨k, hk, hone⟩ := one_eq_two_pow
  rw [Nat.div_one, log2_mul_one hn] at hs
  rw [hm, units_significand (hlo.symm.imp And.left id) hhi, hh, Nat.one_mul]
  by_cases hlog : 52 ≤ n.log2
  · -- the last bit of the significand counts `2 ^ excess n`
    have hs' : 2 ^ s = 2 ^ excess n * one := by
      have hexp : s = excess n + k := by
        rw [excess]
        omega
      rw [hone, ← Nat.pow_add, hexp]
    rw [hs', halfEven_mul_right one_pos, nearestWhole, Nat.mul_assoc]
  · -- nothing is rounded off
    have hdvd : 2 ^ s ∣ n * one := by
      rw [hone]
      exact Nat.dvd_trans (Nat.pow_dvd_pow 2 (by omega)) (Nat.dvd_mul_left _ _)
    have hexcess : excess n = 0 := by
      rw [excess]
      omega
    rw [halfEven_of_dvd (Nat.two_pow_pos s) hdvd,
      nearestWhole_eq_self_iff.2 (by rw [hexcess]; exact Nat.one_dvd n)]

/-- A number that is read from a whole number is equal to the nearest one with 53 bits, unless it is
infinite. -/
theorem toNat?_ofNat (n : Nat) : (ofNat n).toNat? =
    if rounded (n * one) 1 < infinite then some (nearestWhole n) else none := by
  have hmag : (ofNat n).magnitude = min infinite (rounded (n * one) 1) := rfl
  have hneg : (ofNat n).negative = false := rfl
  unfold toNat?
  simp only [isFinite, hmag, hneg, decide_eq_true_eq, Bool.false_eq_true, false_implies, true_and]
  by_cases h : rounded (n * one) 1 < infinite
  · rw [Nat.min_eq_right (Nat.le_of_lt h), units_rounded, Nat.mul_mod_left,
      Nat.mul_div_cancel _ one_pos, if_pos h, if_pos ⟨h, rfl⟩]
  · rw [Nat.min_eq_left (Nat.not_lt.1 h), if_neg h, if_neg fun hc => absurd hc.1 (Nat.lt_irrefl _)]

/-! ## Bounds -/

theorem nearestWhole_bounds {n : Nat} (hn : n ≠ 0) :
    2 ^ n.log2 ≤ nearestWhole n ∧ nearestWhole n ≤ 2 ^ (n.log2 + 1) := by
  by_cases hlog : 52 ≤ n.log2
  · have hsplit : n.log2 = 52 + excess n := by
      rw [excess]
      omega
    have hlo : 2 ^ 52 ≤ n / 2 ^ excess n := by
      rw [Nat.le_div_iff_mul_le (Nat.two_pow_pos _), ← Nat.pow_add, ← hsplit]
      exact Nat.log2_self_le hn
    have hhi : n / 2 ^ excess n < 2 ^ 53 := by
      rw [Nat.div_lt_iff_lt_mul (Nat.two_pow_pos _), ← Nat.pow_add,
        show 53 + excess n = n.log2 + 1 by omega]
      exact Nat.lt_log2_self
    have hge := le_halfEven n (2 ^ excess n)
    have hle := halfEven_le n (2 ^ excess n)
    rw [show n.log2 + 1 = 53 + excess n by omega, hsplit, Nat.pow_add, Nat.pow_add]
    exact ⟨Nat.mul_le_mul_right _ (by omega), Nat.mul_le_mul_right _ (by omega)⟩
  · have hexcess : excess n = 0 := by
      rw [excess]
      omega
    rw [nearestWhole_eq_self_iff.2 (by rw [hexcess]; exact Nat.one_dvd n)]
    exact ⟨Nat.log2_self_le hn, Nat.le_of_lt Nat.lt_log2_self⟩

/-- The first whole number that is rounded to more than `2 ^ 64` is the one behind the tie. -/
theorem nearestWhole_le_iff {n : Nat} : nearestWhole n ≤ 2 ^ 64 ↔ n ≤ 2 ^ 64 + 2048 := by
  by_cases hn : n = 0
  · subst hn
    decide
  obtain ⟨hlo, hhi⟩ := nearestWhole_bounds hn
  rcases Nat.lt_trichotomy n.log2 64 with hlog | hlog | hlog
  · have hlt : n < 2 ^ 64 := (Nat.log2_lt hn).1 hlog
    have hpow : 2 ^ (n.log2 + 1) ≤ 2 ^ 64 := Nat.pow_le_pow_right (by decide) hlog
    omega
  · -- the last bit of the significand counts `2 ^ 12`
    obtain ⟨hge, hlt⟩ := (Nat.log2_eq_iff hn).1 hlog
    have hexcess : 2 ^ excess n = 4096 := by
      rw [excess, hlog]
      rfl
    rw [nearestWhole, hexcess, halfEven]
    split_ifs <;> omega
  · have hpow : 2 ^ 65 ≤ 2 ^ n.log2 := Nat.pow_le_pow_right (by decide) hlog
    have hself := Nat.log2_self_le hn
    omega

end DialogGate.Binary64
