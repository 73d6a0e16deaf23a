import DialogGate.Binary64.Layout
import DialogGate.Proofs.Binary64.Shortest
import DialogGate.Proofs.Expr.Grammar

/-! # Written numbers are literals

The text of a finite magnitude is an unsigned literal of the grammar (`withPoint_unsigned`), and the
literal denotes the magnitude: what its digits stand for lies in the range that is rounded to it
(`ofDecimal_of_rounds`). Exactly the whole numbers are written without a point (`exists_unsigned`).
-/

namespace DialogGate

open Grammar

namespace Binary64

/-! ## Decimals -/

/-- A decimal is read as the finite magnitude that it rounds to; none of the cuts applies to it. -/
theorem ofDecimal_of_rounds {digits n m : Nat} (negative : Bool) (hm : 0 < m) (hi : m < infinite)
    (h : Rounds (digits * one) (10 ^ n) m) :
    ofDecimal negative digits (-(n : Int)) = ofMagnitude negative m := by
  have hu : 0 < units m := by
    have := units_strictMono hm
    rwa [units_zero] at this
  have hlow : 10 ^ n ≤ 2 * (digits * one) :=
    Nat.le_trans (Nat.le_mul_of_pos_left _ (by omega)) (h.lower hm)
  have hpow : 0 < 10 ^ n := Nat.pow_pos (by decide)
  have hd : digits ≠ 0 := by
    rintro rfl
    rw [Nat.zero_mul] at hlow
    omega
  have hn : ¬400 + digits.log2 < n := by
    -- below the cut the decimal is far below half a unit
    intro hlt
    have hone : one ≤ 2 ^ (3 * n - (digits.log2 + 2)) :=
      Nat.le_of_dvd (Nat.two_pow_pos _) (shiftLeft_dvd_two_pow (by omega))
    have hten : 2 ^ (3 * n) ≤ 10 ^ n := by
      rw [Nat.pow_mul]
      exact Nat.pow_le_pow_left (by decide) n
    have hlt2 : 2 * (digits * one) < 2 ^ (3 * n) :=
      calc 2 * (digits * one)
        _ ≤ 2 * (digits * 2 ^ (3 * n - (digits.log2 + 2))) :=
          Nat.mul_le_mul_left _ (Nat.mul_le_mul_left _ hone)
        _ < 2 * (2 ^ (digits.log2 + 1) * 2 ^ (3 * n - (digits.log2 + 2))) :=
          Nat.mul_lt_mul_of_pos_left
            (Nat.mul_lt_mul_of_pos_right Nat.lt_log2_self (Nat.two_pow_pos _)) (by decide)
        _ = 2 ^ (3 * n) := by
          rw [← Nat.mul_assoc, ← Nat.pow_succ', ← Nat.pow_add]
          congr 1
          omega
    omega
  have hratio : nearest (digits * Nat.pow 10 0 * one) (10 ^ n) = m := by
    have hone : Nat.pow 10 0 = 1 := rfl
    rw [hone, Nat.mul_one]
    exact nearest_eq_of_rounds hpow h hi
  rw [ofDecimal, if_neg (by omega), if_neg (by omega), Int.neg_neg, Int.toNat_natCast,
    show (-(n : Int)).toNat = 0 by omega, ofMagnitude, dif_pos (Nat.le_of_lt hi), ofRatio]
  congr 1

/-- A decimal keeps its sign, and it is never undefined. -/
theorem ofDecimal_defined (negative : Bool) (digits : Nat) (exponent : Int) :
    (ofDecimal negative digits exponent).negative = negative ∧
      (ofDecimal negative digits exponent).magnitude ≤ infinite := by
  have h {m : Nat} (hm : m ≤ infinite) :
      (ofMagnitude negative m).negative = negative ∧ (ofMagnitude negative m).magnitude ≤ infinite := by
    rw [ofMagnitude, dif_pos hm]
    exact ⟨rfl, hm⟩
  unfold ofDecimal
  split
  · exact h (Nat.zero_le _)
  split
  · exact h (Nat.le_refl _)
  · exact ⟨rfl, nearest_le _ _⟩

theorem nearest_zero (den : Nat) : nearest 0 den = 0 := by
  have h : halfEven 0 (den <<< 0) = 0 := by
    unfold halfEven
    dsimp only
    rw [Nat.zero_div, Nat.zero_mod]
    split
    · rfl
    · rfl
  rw [nearest, Nat.zero_div]
  show min infinite (0 * exponentBit + halfEven 0 (den <<< 0)) = 0
  rw [h, Nat.zero_mul]
  rfl

/-- Digits alone are read as the whole number that they stand for, rounded. -/
theorem ofDecimal_whole (negative : Bool) (n : Nat) :
    ofDecimal negative n 0 = ofRatio negative (n * one) 1 := by
  by_cases hn : n = 0
  · subst hn
    rw [ofDecimal, if_pos (.inl rfl), ofRatio]
    simp only [ofMagnitude, Nat.zero_mul, nearest_zero, Nat.zero_le, dite_true]
  · rw [ofDecimal, if_neg (by omega), if_neg (by omega)]
    have hone : Nat.pow 10 (0 : Int).toNat = 1 := rfl
    have hone' : Nat.pow 10 (-0 : Int).toNat = 1 := rfl
    rw [hone, hone', Nat.mul_one]

/-! ## Digits with a point -/

theorem isDigits_ofNat (n : Nat) : Text.IsDigits (Text.ofNat n) := by
  intro c hc
  have h := Nat.isDigit_of_mem_toDigits (by decide) (by decide) hc
  simp only [Char.isDigit, Bool.and_eq_true, decide_eq_true_eq] at h
  exact h

theorem isDigits_replicate (n : Nat) : Text.IsDigits (List.replicate n '0') := by
  intro c hc
  rw [List.eq_of_mem_replicate hc]
  decide

theorem ofDigitChars_ofNat (n : Nat) : Nat.ofDigitChars 10 (Text.ofNat n) 0 = n :=
  Nat.ofDigitChars_ten_toDigits

/-- Digits counted in `10 ^ k` of the units of which `10 ^ place` make one, written with a point:
an unsigned literal of the same value, and one without a point if the units are whole. -/
theorem withPoint_unsigned (digits k place : Nat) : ∃ w f,
    Unsigned (Layout.withPoint false (Text.ofNat digits)
      ((Text.ofNat digits).length + ((k : Int) - place))) w f ∧
    Nat.ofDigitChars 10 (w ++ f) 0 * 10 ^ place = digits * 10 ^ k * 10 ^ f.length ∧
    (place ≤ k → Layout.withPoint false (Text.ofNat digits)
      ((Text.ofNat digits).length + ((k : Int) - place)) = w ∧ f = []) := by
  have hd := isDigits_ofNat digits
  have hne : Text.ofNat digits ≠ [] := Nat.toDigits_ne_nil
  have hlen : 0 < (Text.ofNat digits).length := List.length_pos_of_ne_nil hne
  unfold Layout.withPoint
  split
  · next hp =>
    -- zeros between the point and the digits
    refine ⟨['0'], List.replicate _ '0' ++ Text.ofNat digits,
      .point (List.cons_ne_nil _ _) (isDigits_replicate 1) ((isDigits_replicate _).append hd),
      ?_, fun hk => by omega⟩
    rw [List.cons_append, List.nil_append, Nat.ofDigitChars_cons, Nat.ofDigitChars_append,
      Nat.ofDigitChars_replicate_zero, Nat.mul_zero, Nat.zero_add, Nat.sub_self, Nat.mul_zero,
      ofDigitChars_ofNat, Nat.mul_assoc, ← Nat.pow_add, List.length_append, List.length_replicate]
    congr 2
    omega
  · split
    · next hp hq =>
      -- zeros behind the digits
      refine ⟨Text.ofNat digits ++ List.replicate (((Text.ofNat digits).length +
        ((k : Int) - place)).toNat - (Text.ofNat digits).length) '0', [], ?_, ?_,
        fun _ => ⟨by rw [if_neg (by decide), List.append_nil], rfl⟩⟩
      · rw [if_neg (by decide), List.append_nil]
        exact .whole (by simp [hne]) (hd.append (isDigits_replicate _))
      · rw [List.append_nil, Nat.ofDigitChars_append, ofDigitChars_ofNat,
          Nat.ofDigitChars_replicate_zero, List.length_nil, Nat.pow_zero, Nat.mul_one,
          Nat.mul_comm _ digits, Nat.mul_assoc, ← Nat.pow_add]
        congr 2
        omega
    · next hp hq =>
      -- the point is among the digits
      refine ⟨(Text.ofNat digits).take _, (Text.ofNat digits).drop _, .point ?_ ?_ ?_, ?_,
        fun hk => by omega⟩
      · intro h
        have := congrArg List.length h
        rw [List.length_take, List.length_nil] at this
        omega
      · exact fun c hc => hd c (List.mem_of_mem_take hc)
      · exact fun c hc => hd c (List.mem_of_mem_drop hc)
      · rw [List.take_append_drop, ofDigitChars_ofNat, Nat.mul_assoc, ← Nat.pow_add,
          List.length_drop]
        congr 2
        omega

/-! ## Finite magnitudes -/

theorem literal_zero (negative : Bool) : literal negative ['0'] [] = ofMagnitude negative 0 := by
  have hz : Nat.ofDigitChars 10 (['0'] ++ []) 0 = 0 := by decide
  rw [literal, hz, ofDecimal, if_pos (.inl rfl)]

theorem plain_ofMagnitude {m digits k : Nat} (hm : m ≠ 0)
    (h : shortestFrom .up m (exponentAbove m) = (digits, k)) :
    Layout.plain.ofMagnitude m = Layout.withPoint false (Text.ofNat digits)
      ((Text.ofNat digits).length + ((k : Int) - 1074)) := by
  have htie : Layout.plain.tie = .up := rfl
  have hpoint : Layout.plain.keepsPoint = false := rfl
  have hpositional (e : Int) : Layout.plain.positional e = true := rfl
  rw [Layout.ofMagnitude, if_neg hm, shortest, htie, h]
  dsimp only
  rw [if_pos (hpositional _), hpoint]

/-- A finite magnitude is written as an unsigned literal that denotes it. -/
theorem exists_unsigned {m : Nat} (hi : m < infinite) : ∃ w f,
    Unsigned (Layout.plain.ofMagnitude m) w f ∧
    (∀ negative, literal negative w f = ofMagnitude negative m) ∧
    (one ∣ units m → Layout.plain.ofMagnitude m = w ∧ f = []) := by
  by_cases hm : m = 0
  · subst hm
    exact ⟨['0'], [], .whole (List.cons_ne_nil _ _) (isDigits_replicate 1), literal_zero,
      fun _ => ⟨rfl, rfl⟩⟩
  · have hpos : 0 < m := Nat.pos_of_ne_zero hm
    obtain ⟨place, hplace⟩ : ∃ p, p = 1074 := ⟨_, rfl⟩
    have hr := rounds_shortestFrom .up hpos (exponentAbove m)
    have hle := le_shortestFrom_of_dvd .up hpos
    rcases hs : shortestFrom .up m (exponentAbove m) with ⟨digits, k⟩
    rw [hs] at hr hle
    have ht : Layout.plain.ofMagnitude m = Layout.withPoint false (Text.ofNat digits)
        ((Text.ofNat digits).length + ((k : Int) - place)) := by
      rw [plain_ofMagnitude hm hs, hplace, Nat.cast_ofNat]
    obtain ⟨w, f, hu, hv, hf⟩ := withPoint_unsigned digits k place
    refine ⟨w, f, ht ▸ hu, fun negative => ?_, fun hw => ht ▸ hf ?_⟩
    · have he : digits * 10 ^ k * 10 ^ f.length =
          Nat.ofDigitChars 10 (w ++ f) 0 * one * fives := by
        rw [Nat.mul_assoc _ one, one_mul_fives hplace]
        exact hv.symm
      exact ofDecimal_of_rounds negative hpos hi
        (hr.congr fives_pos (Nat.pow_pos (by decide)) he)
    · rw [hplace]
      exact hle hw

end Binary64

end DialogGate
