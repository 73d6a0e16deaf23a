import DialogGate.Binary64.Decimal
import DialogGate.Text.Blank

/-! # The written form of a number

`Numeral.of?_eq_some_iff` says which texts are numerals: behind an optional sign, digits that may
have a point behind or among them, or a point with digits behind it. Only ASCII digits have a value
(`natOf?_eq_some_iff`).
-/

namespace DialogGate

theorem CharClass.exists_of_has {ranges : CharClass} {n : Nat} (h : ranges.has n = true) :
    ∃ r ∈ ranges, r.1 ≤ n ∧ n ≤ r.2 := by
  induction ranges with
  | nil => cases h
  | cons r ranges ih =>
    rw [CharClass.has] at h
    split at h
    · cases h
    · next hlo =>
      split at h
      · next hhi => exact ⟨r, .head _, Nat.not_lt.1 hlo, hhi⟩
      · obtain ⟨s, hs, hn⟩ := ih h
        exact ⟨s, .tail _ hs, hn⟩

/-- Two classes without a range in common hold no character in common. -/
theorem CharClass.has_eq_false_of_apart {ranges others : CharClass} {n : Nat}
    (h : ∀ r ∈ ranges, ∀ s ∈ others, r.2 < s.1 ∨ s.2 < r.1) (hn : ranges.has n = true) :
    others.has n = false := by
  cases ho : others.has n with
  | false => rfl
  | true =>
    obtain ⟨r, hr, hlo, hhi⟩ := exists_of_has hn
    obtain ⟨s, hs, hlo', hhi'⟩ := exists_of_has ho
    rcases h r hr s hs with hlt | hlt
    · exact absurd (Nat.le_trans hlo' hhi) (Nat.not_le.2 hlt)
    · exact absurd (Nat.le_trans hlo hhi') (Nat.not_le.2 hlt)

namespace Text

/-- ASCII digits only. -/
def IsDigits (text : Text) : Prop := ∀ c ∈ text, '0' ≤ c ∧ c ≤ '9'

theorem digitValue?_eq_some_iff {c : Char} {d : Nat} :
    digitValue? c = some d ↔ ('0' ≤ c ∧ c ≤ '9') ∧ d = c.toNat - '0'.toNat := by
  simp only [digitValue?, Option.ite_none_right_eq_some, Option.some.injEq]
  exact and_congr Iff.rfl eq_comm

theorem isDigit_of_le {c : Char} (h : '0' ≤ c ∧ c ≤ '9') : isDigit c = true :=
  isDigit_of_digitValue? (digitValue?_eq_some_iff.2 ⟨h, rfl⟩)

/-- No range of white space holds a digit. -/
theorem isSpace_of_isDigit {c : Char} (h : isDigit c = true) : isSpace c = false :=
  CharClass.has_eq_false_of_apart (by decide +kernel) h

theorem IsDigits.all_isDigit {text : Text} (h : IsDigits text) : text.all isDigit = true :=
  List.all_eq_true.2 fun c hc => isDigit_of_le (h c hc)

theorem IsDigits.append {a b : Text} (ha : IsDigits a) (hb : IsDigits b) : IsDigits (a ++ b) :=
  fun c hc => (List.mem_append.1 hc).elim (ha c) (hb c)

/-- ASCII digits read onto a number are the digits of base ten behind it. -/
theorem natOnto?_of_isDigits {text : Text} (h : IsDigits text) (n : Nat) :
    natOnto? n text = some (Nat.ofDigitChars 10 text n) := by
  induction text generalizing n with
  | nil => rfl
  | cons c text ih =>
    rw [natOnto?, digitValue?_eq_some_iff.2 ⟨h c (.head _), rfl⟩, Option.bind_some,
      ih fun d hd => h d (.tail _ hd), Nat.ofDigitChars_cons]

theorem isDigits_of_natOnto? {text : Text} {n m : Nat} (h : natOnto? n text = some m) :
    IsDigits text := by
  induction text generalizing n with
  | nil => exact fun c hc => absurd hc List.not_mem_nil
  | cons c text ih =>
    obtain ⟨d, hd, hr⟩ := Option.bind_eq_some_iff.1 h
    intro e he
    rcases List.mem_cons.1 he with rfl | he
    · exact (digitValue?_eq_some_iff.1 hd).1
    · exact ih hr e he

theorem natOf?_eq_some_iff {text : Text} {n : Nat} :
    natOf? text = some n ↔ IsDigits text ∧ n = Nat.ofDigitChars 10 text 0 := by
  constructor
  · intro h
    have hd := isDigits_of_natOnto? h
    rw [natOf?, natOnto?_of_isDigits hd, Option.some.injEq] at h
    exact ⟨hd, h.symm⟩
  · rintro ⟨hd, rfl⟩
    exact natOnto?_of_isDigits hd 0

theorem takeWhile_isDigit {a b : Text} (ha : a.all isDigit = true)
    (hb : ∀ c, b.head? = some c → isDigit c = false) : (a ++ b).takeWhile isDigit = a := by
  rw [List.takeWhile_append_of_pos (List.all_eq_true.1 ha)]
  cases b with
  | nil => simp
  | cons c b => rw [List.takeWhile_cons_of_neg (by simp [hb c rfl]), List.append_nil]

theorem dropWhile_isDigit {a b : Text} (ha : a.all isDigit = true)
    (hb : ∀ c, b.head? = some c → isDigit c = false) : (a ++ b).dropWhile isDigit = b := by
  rw [List.dropWhile_append_of_pos (List.all_eq_true.1 ha)]
  cases b with
  | nil => rfl
  | cons c b => rw [List.dropWhile_cons_of_neg (by simp [hb c rfl])]

end Text

namespace Numeral

/-- Digits of any script, with or without a point behind or among them, or behind a point. -/
def Written (whole fraction unsigned : Text) : Prop :=
  whole.all Text.isDigit = true ∧ fraction.all Text.isDigit = true ∧
    (unsigned = whole ∧ whole ≠ [] ∧ fraction = [] ∨
      unsigned = whole ++ '.' :: fraction ∧ (whole ≠ [] ∨ fraction ≠ []))

theorem of?_eq_some_iff {text : Text} {n : Numeral} :
    of? text = some n ↔ (unsign text).1 = n.negative ∧ Written n.whole n.fraction (unsign text).2 := by
  obtain ⟨negative, whole, fraction⟩ := n
  rcases hu : unsign text with ⟨sign, unsigned⟩
  have hpoint : ∀ f : Text, ∀ c, ('.' :: f).head? = some c → Text.isDigit c = false := by
    rintro f c ⟨⟩
    decide
  simp only [of?, hu, Written]
  constructor
  · intro h
    have ht : unsigned.takeWhile Text.isDigit ++ unsigned.dropWhile Text.isDigit = unsigned :=
      List.takeWhile_append_dropWhile
    have ha : (unsigned.takeWhile Text.isDigit).all Text.isDigit = true := List.all_takeWhile
    cases hd : unsigned.dropWhile Text.isDigit with
    | nil =>
      rw [hd, List.append_nil] at ht
      rw [hd] at h
      by_cases he : (unsigned.takeWhile Text.isDigit).isEmpty = true
      · simp [he] at h
      · simp only [he, Bool.false_eq_true, if_false, Option.some.injEq, mk.injEq] at h
        obtain ⟨rfl, rfl, rfl⟩ := h
        exact ⟨rfl, ha, rfl, .inl ⟨ht.symm, by simpa using he, rfl⟩⟩
    | cons c f =>
      rw [hd] at ht h
      simp only [Option.ite_none_right_eq_some, Bool.and_eq_true, decide_eq_true_eq,
        Option.some.injEq, mk.injEq, Bool.not_eq_true', Bool.and_eq_false_iff] at h
      obtain ⟨⟨⟨rfl, hf⟩, hne⟩, rfl, rfl, rfl⟩ := h
      refine ⟨rfl, ha, hf, .inr ⟨ht.symm, hne.imp ?_ ?_⟩⟩ <;> simp
  · rintro ⟨rfl, hw, hf, ⟨rfl, hne, rfl⟩ | ⟨rfl, hne⟩⟩
    · have h1 := Text.takeWhile_isDigit hw (b := []) (by simp)
      have h2 := Text.dropWhile_isDigit hw (b := []) (by simp)
      rw [List.append_nil] at h1 h2
      simp [h1, h2, hne]
    · rw [Text.takeWhile_isDigit hw (hpoint fraction), Text.dropWhile_isDigit hw (hpoint fraction)]
      simp only [hf, decide_true, Bool.true_and, Option.ite_none_right_eq_some, Bool.not_eq_true',
        Bool.and_eq_false_iff, and_true]
      exact hne.imp (by simp) (by simp)

theorem unsign_eq_self {text : Text} (h : ∀ c, text.head? = some c → c ≠ '-' ∧ c ≠ '+') :
    unsign text = (false, text) := by
  cases text with
  | nil => rfl
  | cons c rest =>
    obtain ⟨h1, h2⟩ := h c rfl
    rw [unsign]
    · rintro r ⟨⟩
      exact h1 rfl
    · rintro r ⟨⟩
      exact h2 rfl

/-- A sign, if there is one, and what it stands before. -/
theorem unsign_cases (text : Text) :
    unsign text = (false, text) ∨
      ∃ sign rest, text = sign :: rest ∧ (sign = '+' ∨ sign = '-') ∧
        unsign text = (decide (sign = '-'), rest) := by
  match text with
  | [] => exact .inl rfl
  | c :: rest =>
    by_cases h1 : c = '-'
    · exact .inr ⟨c, rest, rfl, .inr h1, by subst h1; rfl⟩
    · by_cases h2 : c = '+'
      · exact .inr ⟨c, rest, rfl, .inl h2, by subst h2; rfl⟩
      · refine .inl (unsign_eq_self fun d hd => ?_)
        obtain rfl := Option.some.inj hd
        exact ⟨h1, h2⟩

/-- A numeral is written without a sign, or behind one. -/
theorem of?_cases {text : Text} {n : Numeral} (h : of? text = some n) :
    n.negative = false ∧ Written n.whole n.fraction text ∨
      ∃ sign rest, text = sign :: rest ∧ (sign = '+' ∨ sign = '-') ∧
        n.negative = decide (sign = '-') ∧ Written n.whole n.fraction rest := by
  obtain ⟨hn, hw⟩ := of?_eq_some_iff.1 h
  rcases unsign_cases text with hu | ⟨sign, rest, rfl, hs, hu⟩
  · rw [hu] at hn hw
    exact .inl ⟨hn.symm, hw⟩
  · rw [hu] at hn hw
    exact .inr ⟨sign, rest, rfl, hs, hn.symm, hw⟩

section
variable {whole fraction unsigned : Text} (h : Written whole fraction unsigned)
include h

theorem Written.ne_nil : unsigned ≠ [] := by
  obtain ⟨-, -, ⟨rfl, hne, -⟩ | ⟨rfl, -⟩⟩ := h
  · exact hne
  · simp

theorem Written.head : ∀ c, unsigned.head? = some c → Text.isDigit c = true ∨ c = '.' := by
  obtain ⟨hw, -, ⟨rfl, -, -⟩ | ⟨rfl, -⟩⟩ := h
  · exact fun c hc => .inl (List.all_eq_true.1 hw c (List.mem_of_head? hc))
  · intro c hc
    cases whole with
    | nil => exact .inr (Option.some.inj hc).symm
    | cons d w => exact .inl (List.all_eq_true.1 hw c (List.mem_of_head? hc))

end

end Numeral

end DialogGate
