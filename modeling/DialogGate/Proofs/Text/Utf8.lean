import DialogGate.Json.Basic

/-! # The order of texts in bytes

The order of keys goes by the first character that differs. The bytes of a text in UTF-8 have the
same order (`utf8_lt_of_before`): a character with a higher code point has a higher byte at the first
place where the bytes of the two differ, whatever stands behind (`utf8EncodeChar_append_lt`).
-/

namespace DialogGate.Text

/-- The bytes of a text in UTF-8. -/
def utf8 (text : Text) : List UInt8 := text.flatMap String.utf8EncodeChar

theorem ofNat_lt_ofNat_iff {a b : Nat} (ha : a < 256) (hb : b < 256) :
    UInt8.ofNat a < UInt8.ofNat b ↔ a < b := by
  rw [UInt8.lt_iff_toNat_lt, UInt8.toNat_ofNat_of_lt' ha, UInt8.toNat_ofNat_of_lt' hb]

theorem ofNat_eq_ofNat_iff {a b : Nat} (ha : a < 256) (hb : b < 256) :
    UInt8.ofNat a = UInt8.ofNat b ↔ a = b := by
  rw [← UInt8.toNat_inj, UInt8.toNat_ofNat_of_lt' ha, UInt8.toNat_ofNat_of_lt' hb]

/-- Of two numbers in base 64, one is the smaller before the last digit or in it. -/
theorem digits_lt {v w : Nat} (h : v < w) :
    v / 64 < w / 64 ∨ v / 64 = w / 64 ∧ v % 64 < w % 64 := by
  omega

theorem utf8EncodeChar_append_lt {c d : Char} (h : c.toNat < d.toNat) (s t : List UInt8) :
    String.utf8EncodeChar c ++ s < String.utf8EncodeChar d ++ t := by
  have hlt : c.val.toNat < d.val.toNat := h
  have hmax : d.val.toNat < 0x110000 := by
    rcases d.valid with h | h <;> omega
  unfold String.utf8EncodeChar
  clear h
  generalize c.val.toNat = v at hlt
  generalize d.val.toNat = w at hlt hmax
  dsimp only
  by_cases hv : v ≤ 0xFFFF
  · -- at most three bytes for the first character
    repeat' split
    all_goals
      simp (disch := omega) only [List.cons_append, List.nil_append, List.cons_lt_cons_iff,
        ofNat_lt_ofNat_iff, ofNat_eq_ofNat_iff]
      omega
  · rw [if_neg (by omega), if_neg (by omega), if_neg hv, if_neg (by omega), if_neg (by omega),
      if_neg (by omega)]
    simp (disch := omega) only [List.cons_append, List.nil_append, List.cons_lt_cons_iff,
      ofNat_lt_ofNat_iff, ofNat_eq_ofNat_iff]
    rcases digits_lt hlt with h1 | h1
    · rcases digits_lt h1 with h2 | h2
      · omega
      · omega
    · omega

theorem utf8_lt_of_before {s t : Text} (h : before s t = true) : utf8 s < utf8 t := by
  fun_induction before s t with
  | case1 => cases h
  | case2 c t =>
    obtain ⟨b, bs, hb⟩ : ∃ b bs, String.utf8EncodeChar c = b :: bs :=
      List.exists_cons_of_length_pos (by rw [String.length_utf8EncodeChar]; exact c.utf8Size_pos)
    rw [utf8, utf8, List.flatMap_cons, hb]
    exact List.nil_lt_cons _ _
  | case3 c s => cases h
  | case4 s c t ih =>
    rw [utf8, utf8, List.flatMap_cons, List.flatMap_cons]
    exact List.append_left_lt (ih h)
  | case5 c s d t hne =>
    rw [utf8, utf8, List.flatMap_cons, List.flatMap_cons]
    exact utf8EncodeChar_append_lt (of_decide_eq_true h) _ _

/-- Of two different texts one comes before the other. -/
theorem before_or_before {s t : Text} (h : s ≠ t) : before s t = true ∨ before t s = true := by
  fun_induction before s t with
  | case1 => exact absurd rfl h
  | case2 c t => exact .inl rfl
  | case3 c s => exact .inr rfl
  | case4 s c t ih =>
    rw [before, if_pos rfl]
    exact ih fun he => h (congrArg (c :: ·) he)
  | case5 c s d t hne =>
    rw [before, if_neg (Ne.symm hne), decide_eq_true_eq, decide_eq_true_eq]
    exact Nat.lt_or_gt_of_ne fun he => hne (Char.toNat_inj.1 he)

end DialogGate.Text
