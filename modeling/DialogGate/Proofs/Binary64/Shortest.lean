import DialogGate.Binary64.Shortest
import DialogGate.Proofs.Binary64.Nearest

/-! # The shortest digits read back

`readsBack` decides that a number rounds to a magnitude (`rounds_of_readsBack`). Every multiple that
the search takes does (`readsBack_of_multiple?`), and so does the magnitude itself, with which it
ends at the latest; therefore the digits that are found round to the magnitude
(`rounds_shortestFrom`). For a whole number the search ends at the units or before them
(`le_shortestFrom_of_dvd`), so no digit is behind the point.
-/

namespace DialogGate.Binary64

theorem fives_pos : 0 < fives := by decide +kernel

/-- The exponent is a variable, so that the power is not computed where this is used. -/
theorem one_mul_fives {k : Nat} (hk : k = 1074) : one * fives = Nat.pow 10 k := by
  subst hk
  decide +kernel

theorem rounds_of_readsBack {m v : Nat} (h : readsBack m v = true) : Rounds v fives m := by
  unfold readsBack at h
  dsimp only at h
  split at h
  · obtain ⟨hl, hu⟩ := Bool.and_eq_true_iff.1 h
    exact ⟨fun _ => of_decide_eq_true hl, of_decide_eq_true hu, fun hm => by omega⟩
  · obtain ⟨hl, hu⟩ := Bool.and_eq_true_iff.1 h
    have hl := of_decide_eq_true hl
    have hu := of_decide_eq_true hu
    exact ⟨fun _ => Nat.le_of_lt hl, Nat.le_of_lt hu, fun _ => ⟨hl, hu⟩⟩

/-- A magnitude reads back as itself. -/
theorem readsBack_units {m : Nat} (hm : 0 < m) : readsBack m (units m * fives) = true := by
  have hlow : units (m - 1) + units m < 2 * units m := by
    have := units_strictMono (show m - 1 < m by omega)
    omega
  have hup : 2 * units m < units m + units (m + 1) := by
    have := units_lt_succ m
    omega
  have hl := Nat.mul_lt_mul_of_pos_right hlow fives_pos
  have hu := Nat.mul_lt_mul_of_pos_right hup fives_pos
  rw [Nat.mul_assoc] at hl hu
  unfold readsBack
  dsimp only
  split
  · rw [decide_eq_true (Nat.le_of_lt hl), decide_eq_true (Nat.le_of_lt hu)]
    rfl
  · rw [decide_eq_true hl, decide_eq_true hu]
    rfl

/-! ## The search -/

variable {tie : Tie} {m k digits : Nat}

theorem readsBack_of_multiple? (h : multiple? tie m k = some digits) :
    readsBack m (digits * Nat.pow 10 k) = true := by
  unfold multiple? at h
  dsimp only at h
  split at h
  · next hb _ =>
    obtain rfl := Option.some.inj h
    exact hb
  · next _ ha =>
    obtain rfl := Option.some.inj h
    exact ha
  · cases h
  · -- both neighbours read back, and one of them is taken
    next hb ha =>
    split at h
    · obtain rfl := Option.some.inj h
      exact hb
    split at h
    · obtain rfl := Option.some.inj h
      exact ha
    cases tie with
    | up =>
      obtain rfl := Option.some.inj h
      exact ha
    | even =>
      dsimp only at h
      split at h
      · obtain rfl := Option.some.inj h
        exact hb
      · obtain rfl := Option.some.inj h
        exact ha

theorem multiple?_ne_none (hm : 0 < m) (h : Nat.pow 10 k ∣ units m * fives) :
    multiple? tie m k ≠ none := by
  have hself : readsBack m (units m * fives / Nat.pow 10 k * Nat.pow 10 k) = true := by
    rw [Nat.div_mul_cancel h, readsBack_units hm]
  unfold multiple?
  dsimp only
  rw [hself]
  split
  · simp
  · simp
  · next hf _ => cases hf
  · split
    · simp
    · split
      · simp
      · cases tie <;> simp

theorem readsBack_shortestFrom (tie : Tie) (hm : 0 < m) (top : Nat) :
    readsBack m ((shortestFrom tie m top).1 * Nat.pow 10 (shortestFrom tie m top).2) = true := by
  induction top with
  | zero =>
    have hone : Nat.pow 10 0 = 1 := rfl
    rw [shortestFrom, hone, Nat.mul_one, readsBack_units hm]
  | succ top ih =>
    rw [shortestFrom]
    cases h : multiple? tie m (top + 1) with
    | none => exact ih
    | some digits => exact readsBack_of_multiple? h

theorem le_shortestFrom {top : Nat} (h : multiple? tie m k ≠ none) (hk : 0 < k) (htop : k ≤ top) :
    k ≤ (shortestFrom tie m top).2 := by
  induction top with
  | zero => omega
  | succ top ih =>
    rw [shortestFrom]
    cases hc : multiple? tie m (top + 1) with
    | some digits => exact htop
    | none =>
      refine ih ?_
      rcases Nat.lt_or_eq_of_le htop with hlt | rfl
      · omega
      · exact absurd hc h

theorem rounds_shortestFrom (tie : Tie) (hm : 0 < m) (top : Nat) :
    Rounds ((shortestFrom tie m top).1 * Nat.pow 10 (shortestFrom tie m top).2) fives m :=
  rounds_of_readsBack (readsBack_shortestFrom tie hm top)

/-! ## Whole numbers -/

/-- The search for the digits of a whole number begins at the units or above them. -/
theorem le_exponentAbove (hm : 0 < m) (h : one ∣ units m) : 1074 ≤ exponentAbove m := by
  have hpos : 0 < units m := by
    have := units_strictMono hm
    rw [units_zero] at this
    exact this
  have hle : one * fives ≤ units m * fives := Nat.mul_le_mul_right _ (Nat.le_of_dvd hpos h)
  have hone : 3567 ≤ (one * fives).log2 := by decide +kernel
  have hlog : (one * fives).log2 ≤ (units m * fives).log2 := by
    have hne : units m * fives ≠ 0 := Nat.ne_of_gt (Nat.mul_pos hpos fives_pos)
    have hne' : one * fives ≠ 0 := by decide +kernel
    exact (Nat.le_log2 hne).2 (Nat.le_trans (Nat.log2_self_le hne') hle)
  unfold exponentAbove
  omega

theorem le_shortestFrom_of_dvd (tie : Tie) (hm : 0 < m) (h : one ∣ units m) :
    1074 ≤ (shortestFrom tie m (exponentAbove m)).2 := by
  obtain ⟨k, hk⟩ : ∃ k, k = 1074 := ⟨_, rfl⟩
  have hd : Nat.pow 10 k ∣ units m * fives := by
    rw [← one_mul_fives hk]
    exact Nat.mul_dvd_mul_right h _
  have habove := le_exponentAbove hm h
  rw [← hk] at habove ⊢
  exact le_shortestFrom (multiple?_ne_none hm hd) (by omega) habove

end DialogGate.Binary64
