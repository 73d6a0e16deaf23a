import DialogGate.Eval
import DialogGate.Proofs.Binary64.Whole
import DialogGate.Proofs.Expr.Number
import DialogGate.Proofs.Expr.Sentence
import DialogGate.Proofs.Text.Keyword

/-! # The variable that digits point to

The index of a variable is read as a number, like any literal, and so it is rounded to 53
significant bits before the variable is looked up (`indexOf?_ofNat`). `\v[N]` is the variable `N`
for all `N` that are not changed by this, and for the last of all. Every other index stands for
another variable, up to those that are rounded to more than `2 ^ 64`; these are refused
(`eval_reference_iff`).
-/

namespace DialogGate

open Grammar

namespace Binary64

theorem literal_digits (digits : Text) :
    literal false digits [] = ofNat (Nat.ofDigitChars 10 digits 0) := by
  rw [literal, List.append_nil]
  exact ofDecimal_whole false _

theorem rounded_lt_infinite {n : Nat} (h : n ≤ 2 ^ 64 + 2048) :
    rounded (n * one) 1 < infinite := by
  have hlt : 2 ^ 64 * one < units infinite := by decide +kernel
  apply units_strictMono.lt_iff_lt.1
  rw [units_rounded]
  exact Nat.lt_of_le_of_lt (Nat.mul_le_mul_right one (nearestWhole_le_iff.2 h)) hlt

/-- The index that a whole number stands for. -/
theorem indexOf?_ofNat (n : Nat) : indexOf? (ofNat n) =
    if n ≤ 2 ^ 64 + 2048 then some (min (nearestWhole n) Store.lastIndex) else none := by
  have hlast : Store.lastIndex + 1 = 2 ^ 64 := rfl
  rw [indexOf?, toNat?_ofNat, hlast]
  by_cases h : n ≤ 2 ^ 64 + 2048
  · rw [if_pos (rounded_lt_infinite h), if_pos h]
    exact if_pos (nearestWhole_le_iff.2 h)
  · rw [if_neg h]
    split
    · next m hm =>
      obtain ⟨-, hm⟩ := Option.ite_none_right_eq_some.1 hm
      rw [← Option.some.inj hm]
      exact if_neg (nearestWhole_le_iff.not.2 h)
    · rfl

end Binary64

namespace Expr

/-- The tree gives the variable with the index, or an error if there is no such index. -/
def ReadsVariable (n : Nat) (e : Expr) : Prop :=
  ∀ store : Store, if n ≤ Store.lastIndex then e.eval store = .ok (.number (store n))
    else ∃ x, e.eval store = .error (.invalidIndex x)

theorem ofText_reference {v : Char} {digits : Text} {n : Nat} (hv : v = 'v' ∨ v = 'V')
    (hne : digits ≠ []) (hn : Text.natOf? digits = some n) :
    ofText ('\\' :: v :: '[' :: digits ++ [']']) = .ok (lookup (number (.ofNat n))) := by
  obtain ⟨hd, rfl⟩ := Text.natOf?_eq_some_iff.1 hn
  have ho : 'o' ∉ '\\' :: v :: '[' :: digits ++ [']'] := by
    have hdigits : 'o' ∉ digits := fun hm => absurd (hd 'o' hm) (by decide)
    rcases hv with rfl | rfl <;> simp [hdigits]
  rw [ofText, Text.spellNot, Text.spellNotAfter_eq_self ho, parseAt_lookup hv hne hd,
    Binary64.literal_digits]

theorem eval_lookup_number (x : Binary64) (store : Store) :
    (lookup (number x)).eval store = (Value.number x).lookupIn store := rfl

theorem eval_lookup_ofNat (n : Nat) (store : Store) :
    (lookup (number (.ofNat n))).eval store =
      if n ≤ 2 ^ 64 + 2048 then
        .ok (.number (store (min (Binary64.nearestWhole n) Store.lastIndex)))
      else .error (.invalidIndex (.ofNat n)) := by
  rw [eval_lookup_number, Value.lookupIn, Binary64.indexOf?_ofNat]
  by_cases h : n ≤ 2 ^ 64 + 2048
  · rw [if_pos h, if_pos h]
  · rw [if_neg h, if_neg h]

/-- Another variable is told from the one meant by a store that holds different numbers there. -/
theorem eq_of_forall_store {n m : Nat}
    (h : ∀ store : Store, (.ok (.number (store m)) : Except EvalError Value) =
      .ok (.number (store n))) : m = n := by
  have hs := h fun i => if i = n then .ofNat 1 else .ofNat 0
  rw [Except.ok.injEq, Value.number.injEq, if_pos rfl] at hs
  by_contra hne
  rw [if_neg hne] at hs
  exact absurd hs (by decide +kernel)

theorem readsVariable_iff (n : Nat) :
    (lookup (number (.ofNat n))).ReadsVariable n ↔
      n ≤ Store.lastIndex ∧ 2 ^ Binary64.excess n ∣ n ∨ n = Store.lastIndex ∨
        2 ^ 64 + 2048 < n := by
  have hlast : Store.lastIndex = 2 ^ 64 - 1 := rfl
  rw [← Binary64.nearestWhole_eq_self_iff]
  constructor
  · intro h
    by_cases hn : n ≤ Store.lastIndex
    · have hread : ∀ store : Store,
          (.ok (.number (store (min (Binary64.nearestWhole n) Store.lastIndex))) :
            Except EvalError Value) = .ok (.number (store n)) := by
        intro store
        have hs := h store
        rwa [if_pos hn, eval_lookup_ofNat, if_pos (by omega)] at hs
      have := eq_of_forall_store hread
      omega
    · by_contra hc
      obtain ⟨x, hx⟩ : ∃ x, _ = Except.error (EvalError.invalidIndex x) := by
        have hs := h .zero
        rwa [if_neg hn] at hs
      rw [eval_lookup_ofNat, if_pos (by omega)] at hx
      cases hx
  · intro h store
    rw [eval_lookup_ofNat]
    by_cases hn : n ≤ Store.lastIndex
    · have hm : min (Binary64.nearestWhole n) Store.lastIndex = n := by
        rcases h with ⟨-, h⟩ | rfl | h
        · omega
        · decide +kernel
        · omega
      rw [if_pos hn, if_pos (by omega), hm]
    · rw [if_neg hn, if_neg (by omega)]
      exact ⟨_, rfl⟩

/-- For all digits, `\v[N]` is a variable. It gives the variable whose index is `N` rounded to 53
bits, at most the last one, or an error if `N` is rounded to more than `2 ^ 64`. So it gives the
variable `N`, and an error if there is none, exactly if nothing of an index `N` is rounded off, if
it is the last one, or if it is greater than `2 ^ 64 + 2048`. -/
theorem eval_reference_iff {v : Char} {digits : Text} (hv : v = 'v' ∨ v = 'V') (hne : digits ≠ [])
    (hd : Text.IsDigits digits) {n : Nat} (hn : Nat.ofDigitChars 10 digits 0 = n) :
    ∃ e, ofText ('\\' :: v :: '[' :: digits ++ [']']) = .ok e ∧
      (∀ store, e.eval store =
        if n ≤ 2 ^ 64 + 2048 then
          .ok (.number (store (min (Binary64.nearestWhole n) Store.lastIndex)))
        else .error (.invalidIndex (.ofNat n))) ∧
      (e.ReadsVariable n ↔ n ≤ Store.lastIndex ∧ 2 ^ Binary64.excess n ∣ n ∨
        n = Store.lastIndex ∨ 2 ^ 64 + 2048 < n) := by
  subst hn
  have hread := ofText_reference hv hne (Text.natOf?_eq_some_iff.2 ⟨hd, rfl⟩)
  exact ⟨_, hread, eval_lookup_ofNat _, readsVariable_iff _⟩

/-- Up to `2 ^ 53` nothing is rounded off. -/
theorem eval_reference_last_exact :
    ∃ e, ofText "\\V[9007199254740992]".toList = .ok e ∧ e.ReadsVariable 9007199254740992 := by
  have hnat : Text.natOf? "9007199254740992".toList = some 9007199254740992 := rfl
  obtain ⟨hd, hn⟩ := Text.natOf?_eq_some_iff.1 hnat
  obtain ⟨e, he, -, hiff⟩ := eval_reference_iff (.inr rfl) (by decide) hd hn.symm
  exact ⟨e, he, hiff.2 (.inl ⟨by decide, by decide⟩)⟩

/-- The index `2 ^ 53 + 1` is the first that stands for another variable, and `2 ^ 64` is no index,
but stands for the last one. -/
theorem eval_reference_neighbour :
    (∃ e, ofText "\\v[9007199254740993]".toList = .ok e ∧
      (∀ store : Store, e.eval store = .ok (.number (store 9007199254740992))) ∧
      ¬e.ReadsVariable 9007199254740993) ∧
    ∃ e, ofText "\\v[18446744073709551616]".toList = .ok e ∧
      (∀ store : Store, e.eval store = .ok (.number (store Store.lastIndex))) ∧
      ¬e.ReadsVariable 18446744073709551616 := by
  have hodd : Text.natOf? "9007199254740993".toList = some 9007199254740993 := rfl
  have hlast : Text.natOf? "18446744073709551616".toList = some 18446744073709551616 := rfl
  refine ⟨⟨_, ofText_reference (.inl rfl) (by decide) hodd, fun store => ?_, fun hr => ?_⟩,
    _, ofText_reference (.inl rfl) (by decide) hlast, fun store => ?_, fun hr => ?_⟩
  · have hm : min (Binary64.nearestWhole 9007199254740993) Store.lastIndex =
        9007199254740992 := by decide +kernel
    rw [eval_lookup_ofNat, if_pos (by decide), hm]
  · exact absurd ((readsVariable_iff _).1 hr) (by decide +kernel)
  · have hm : min (Binary64.nearestWhole 18446744073709551616) Store.lastIndex =
        Store.lastIndex := by decide +kernel
    rw [eval_lookup_ofNat, if_pos (by decide), hm]
  · exact absurd ((readsVariable_iff _).1 hr) (by decide +kernel)

end Expr

end DialogGate
