import DialogGate.Proofs.Expr.Canonical
import DialogGate.Proofs.Expr.Failure

/-! # The trees that can be written

A condition can be written for a tree if all its numbers are defined and every variable has an index
that digits alone denote, a whole number without a sign or infinity (`Written`); no other tree is
ever read (`written_of_ofText`, `exists_ofText`). The canonical form is not enough to write all of
them, since it has no literal for infinity; a literal with enough digits is one (`literal_huge`).

In a tree that is read, an index is a number, so it can only be refused for its size
(`isBelow_of_indexOf?_eq_none`).
-/

namespace DialogGate

open Grammar

/-- The trees that some condition stands for. -/
structure Expr.Written (e : Expr) : Prop where
  numbers : ∀ x ∈ e.numbers, x.isDefined = true
  indices : ∀ i ∈ e.indices, ∃ x, i = .number x ∧ x.negative = false ∧
    (x.IsWhole ∨ x.magnitude = Binary64.infinite)

/-! ## Literals for all numbers -/

namespace Binary64

/-- The digits of `2 ^ 1024`, which is beyond the finite range. -/
def hugeDigits : Text := Text.ofNat (1 <<< 1024)

theorem nearest_huge : nearest ((1 <<< 1024) * one) 1 = infinite := by
  decide +kernel

theorem literal_huge (negative : Bool) :
    literal negative hugeDigits [] = ofMagnitude negative infinite := by
  have hd : Nat.ofDigitChars 10 (hugeDigits ++ []) 0 = 1 <<< 1024 := by
    rw [List.append_nil]
    exact ofDigitChars_ofNat _
  have he : (-([] : Text).length : Int) = 0 := rfl
  rw [literal, hd, he, ofDecimal_whole, ofRatio]
  simp only [nearest_huge]
  rfl

theorem unsigned_ofNat (n : Nat) : Unsigned (Text.ofNat n) (Text.ofNat n) [] :=
  .whole Nat.toDigits_ne_nil (isDigits_ofNat n)

theorem isFinite_or_infinite {x : Binary64} (h : x.isDefined = true) :
    x.isFinite = true ∨ x.magnitude = infinite := by
  simp only [isDefined, isFinite, decide_eq_true_eq] at h ⊢
  omega

/-- Every number that is defined has a literal; digits alone are enough for whole numbers and for
infinity. -/
theorem exists_literal_of_isDefined {x : Binary64} (h : x.isDefined = true) : ∃ t w f,
    Unsigned t w f ∧ literal x.negative w f = x ∧
      (x.IsWhole ∨ x.magnitude = infinite → t = w ∧ f = []) := by
  rcases isFinite_or_infinite h with hfin | hinf
  · obtain ⟨t, w, f, hu, -, hl, hw⟩ := exists_literal hfin
    refine ⟨t, w, f, hu, hl, fun hx => hw (hx.resolve_right fun hinf => ?_)⟩
    simp [isFinite, hinf] at hfin
  · refine ⟨hugeDigits, hugeDigits, [], unsigned_ofNat _, ?_, fun _ => ⟨rfl, rfl⟩⟩
    obtain ⟨negative, m, hm⟩ := x
    obtain rfl : m = infinite := hinf
    rw [literal_huge]
    rfl

end Binary64

theorem Grammar.Unsigned.not_mem {t w f : Text} (h : Unsigned t w f) : 'o' ∉ t := by
  intro hm
  rcases h.mem hm with hd | hd
  · exact absurd hd (by decide)
  · exact absurd hd (by decide)

/-! ## Writing a tree -/

namespace Expr

variable {e a b : Expr} {op : BinaryOp} {raw : Text}

theorem Written.operand (h : (not e).Written) : e.Written := ⟨h.numbers, h.indices⟩

theorem Written.left (h : (binary op a b).Written) : a.Written :=
  ⟨fun x hx => h.numbers x (List.mem_append_left _ hx),
    fun i hi => h.indices i (List.mem_append_left _ hi)⟩

theorem Written.right (h : (binary op a b).Written) : b.Written :=
  ⟨fun x hx => h.numbers x (List.mem_append_right _ hx),
    fun i hi => h.indices i (List.mem_append_right _ hi)⟩

/-- A text that is derived in parentheses may stand wherever a primary may. -/
theorem derives_enclosed {t : Text} (h : Derives .or t e) : Derives .unary (enclosed t) e := by
  have hg : Derives .primary ('(' :: ([] ++ t ++ []) ++ [')']) e := .group rfl h rfl
  rw [List.nil_append, List.append_nil] at hg
  exact .tighter rfl hg

/-- There is a text for the tree, and no keyword in it. -/
theorem Written.exists_derives (h : e.Written) : ∃ t, Derives .unary t e ∧ 'o' ∉ t := by
  induction e with
  | boolean b =>
    refine ⟨_, .tighter rfl (.boolean b), ?_⟩
    cases b <;> decide
  | number x =>
    obtain ⟨t, w, f, hu, hx, -⟩ := Binary64.exists_literal_of_isDefined (h.numbers x (.head _))
    cases hn : x.negative with
    | false =>
      rw [hn] at hx
      rw [← hx]
      exact ⟨t, .tighter rfl (.number hu), hu.not_mem⟩
    | true =>
      rw [hn] at hx
      rw [← hx]
      have hs : Derives .sum ('-' :: t) (.number (literal true w f)) := .signed (.inr rfl) hu
      refine ⟨_, derives_enclosed (hs.loosen (by decide)), not_mem_enclosed ?_⟩
      simp [hu.not_mem]
  | lookup index ih =>
    obtain ⟨x, rfl, hn, hw⟩ := h.indices index (.head _)
    obtain ⟨t, w, f, hu, hx, hf⟩ := Binary64.exists_literal_of_isDefined (h.numbers x (.head _))
    obtain ⟨rfl, rfl⟩ := hf hw
    have hd : Text.IsDigits t := by simpa using hu.isDigits
    have hl : Derives .primary ('\\' :: 'v' :: '[' :: t ++ [']']) _ :=
      .lookup (.inl rfl) hu.ne_nil hd
    rw [← hn, hx] at hl
    refine ⟨_, .tighter rfl hl, ?_⟩
    simp [hu.not_mem]
  | not operand ih =>
    obtain ⟨t, ht, ho⟩ := ih h.operand
    have hpre : Text.isBlank [] = true := rfl
    refine ⟨_, .not hpre ht, ?_⟩
    simp [ho]
  | binary op left right ihl ihr =>
    obtain ⟨s, hs, hos⟩ := ihl h.left
    obtain ⟨t, ht, hot⟩ := ihr h.right
    refine ⟨_, derives_enclosed (derives_binary op hs ht), not_mem_enclosed ?_⟩
    have hop : 'o' ∉ op.symbol := by cases op <;> decide
    simp [hos, hot, hop]

theorem exists_ofText (h : e.Written) : ∃ raw, ofText raw = .ok e := by
  obtain ⟨t, ht, ho⟩ := h.exists_derives
  refine ⟨t, ?_⟩
  rw [ofText, Text.spellNot, Text.spellNotAfter_eq_self ho]
  exact parseAt_of_derives ht .whole

/-! ## What is read -/

theorem written_of_ofText (h : ofText raw = .ok e) : e.Written := by
  have hnumbers : ∀ x ∈ e.numbers, x.isDefined = true := by
    intro x hx
    obtain ⟨negative, w, f, -, rfl⟩ := numbers_of_ofText h x hx
    exact decide_eq_true (Binary64.ofDecimal_defined negative _ _).2
  refine ⟨hnumbers, fun i hi => ?_⟩
  obtain ⟨digits, -, -, rfl⟩ := indices_of_ofText h i hi
  refine ⟨_, rfl, (Binary64.ofDecimal_defined ..).1, ?_⟩
  have hd := hnumbers _ (mem_numbers_of_mem_indices hi)
  exact (Binary64.isFinite_or_infinite hd).imp_left (Binary64.isWhole_literal rfl)

theorem mem_indices_of_mem_nodes {i : Expr} (h : lookup i ∈ e.nodes) : i ∈ e.indices := by
  induction e with
  | boolean | number => simp [nodes] at h
  | lookup index ih =>
    simp only [nodes, List.mem_append, List.mem_singleton, lookup.injEq] at h
    rcases h with h | rfl
    · exact List.mem_cons_of_mem _ (ih h)
    · exact List.mem_cons_self
  | not operand ih =>
    simp only [nodes, List.mem_append, List.mem_singleton, reduceCtorEq, or_false] at h
    exact ih h
  | binary op left right ihl ihr =>
    simp only [nodes, List.mem_append, List.mem_singleton, reduceCtorEq, or_false] at h
    exact List.mem_append.2 (h.imp ihl ihr)

end Expr

/-! ## Indices that are refused -/

namespace Binary64

theorem units_ofNat_lastIndex_succ :
    units (ofNat (2 ^ 64)).magnitude = (Store.lastIndex + 1) * one := by
  decide +kernel

/-- A whole number without a sign is an index unless it is greater than `2 ^ 64`, and so is
infinity. -/
theorem isBelow_of_indexOf?_eq_none {x : Binary64} (hn : x.negative = false)
    (hx : x.IsWhole ∨ x.magnitude = infinite) (hnone : indexOf? x = none) :
    (ofNat (2 ^ 64)).isBelow x = true := by
  have hdef : x.isDefined = true := by
    rcases hx with ⟨hfin, -⟩ | hinf
    · exact isDefined_of_isFinite hfin
    · simp [isDefined, hinf]
  have hlt : (ofNat (2 ^ 64)).magnitude < x.magnitude := by
    rcases hx with ⟨hfin, hdvd⟩ | hinf
    · have hnat : x.toNat? = some (units x.magnitude / one) := by
        simp [toNat?, hfin, hn, Nat.mod_eq_zero_of_dvd hdvd]
      have hgt : Store.lastIndex + 1 < units x.magnitude / one := by
        simpa [indexOf?, hnat] using hnone
      apply units_strictMono.lt_iff_lt.1
      rw [units_ofNat_lastIndex_succ]
      have hone : 0 < one := by decide +kernel
      exact (Nat.lt_div_iff_mul_lt' hdvd _).1 hgt
    · rw [hinf]
      decide +kernel
  have hbound : (ofNat (2 ^ 64)).isDefined = true ∧ (ofNat (2 ^ 64)).negative = false := by
    decide +kernel
  simp only [isBelow, rank, hbound, hdef, hn, Bool.false_eq_true, if_false, Bool.true_and,
    decide_eq_true_eq]
  exact Int.ofNat_lt.2 hlt

end Binary64

namespace Expr

variable {e : Expr} {store : Store} {x : EvalError}

/-- Only an index can fail in a condition for another reason than the types of its operands, and
only as a number above all indices. -/
theorem Written.eval_eq_error (h : e.Written) (hx : e.eval store = .error x) :
    (∃ op left right, x = .typeMismatch op left right) ∨ x = .notBoolean .number ∨
      ∃ y, x = .invalidIndex y ∧ number y ∈ e.indices ∧
        (Binary64.ofNat (2 ^ 64)).isBelow y = true := by
  obtain ⟨before, n, after, hnodes, -, hfails⟩ := eval_eq_error_iff.1 hx
  have hn : n ∈ e.nodes := by
    rw [hnodes]
    exact List.mem_append_cons_self
  cases failsAt_iff_refuses.1 hfails with
  | mismatch => exact .inl ⟨_, _, _, rfl⟩
  | negatedNumber => exact .inr (.inl rfl)
  | booleanIndex hi =>
    obtain ⟨y, rfl, -⟩ := h.indices _ (mem_indices_of_mem_nodes hn)
    cases hi
  | invalidIndex hi hnone =>
    have hmem := mem_indices_of_mem_nodes hn
    obtain ⟨y, rfl, hpos, hwhole⟩ := h.indices _ hmem
    cases hi
    exact .inr (.inr ⟨_, rfl, hmem, Binary64.isBelow_of_indexOf?_eq_none hpos hwhole hnone⟩)

/-- Conditions stand for exactly the trees whose numbers are defined and whose indices are numbers
that are whole or infinite and have no sign. So no condition is refused for the type of an index, and
only an index in it that is greater than `2 ^ 64` is ever refused as a number. -/
theorem ofText_image : (∀ e : Expr, (∃ raw, ofText raw = .ok e) ↔ e.Written) ∧
    ∀ raw e, ofText raw = .ok e → ∀ store,
      (∀ t, e.eval store ≠ .error (.nonNumericIndex t)) ∧
      ∀ y, e.eval store = .error (.invalidIndex y) →
        number y ∈ e.indices ∧ (Binary64.ofNat (2 ^ 64)).isBelow y = true := by
  refine ⟨fun e => ⟨fun ⟨raw, h⟩ => written_of_ofText h, exists_ofText⟩, ?_⟩
  intro raw e h store
  have hw := written_of_ofText h
  constructor
  · intro t ht
    rcases hw.eval_eq_error ht with ⟨_, _, _, he⟩ | he | ⟨_, he, -⟩ <;> cases he
  · intro y hy
    rcases hw.eval_eq_error hy with ⟨_, _, _, he⟩ | he | ⟨_, he, hbelow⟩ <;> cases he
    exact hbelow

/-- The variable `2 ^ 65` can be written, and there is none. -/
theorem ofText_image_lookup : ∃ raw, ∃ y,
    ofText raw = .ok (lookup (number y)) ∧
      (lookup (number y)).eval .zero = .error (.invalidIndex y) ∧
      (Binary64.ofNat (2 ^ 64)).isBelow y = true := by
  have hw : (lookup (number (.ofNat (2 ^ 65)))).Written := by
    refine ⟨fun x hx => ?_, fun i hi => ?_⟩
    · obtain rfl : x = .ofNat (2 ^ 65) := by simpa [numbers] using hx
      decide +kernel
    · obtain rfl : i = number (.ofNat (2 ^ 65)) := by simpa [indices] using hi
      refine ⟨_, rfl, by decide +kernel, .inl ⟨by decide +kernel, ?_⟩⟩
      exact Nat.dvd_of_mod_eq_zero (by decide +kernel)
  have hnone : indexOf? (.ofNat (2 ^ 65)) = none := by decide +kernel
  have herror : (lookup (number (.ofNat (2 ^ 65)))).eval .zero =
      .error (.invalidIndex (.ofNat (2 ^ 65))) :=
    eval_lookup_eq_error_iff.2 (.inr (failsAt_iff_refuses.2 (.invalidIndex rfl hnone)))
  obtain ⟨raw, h⟩ := (ofText_image.1 _).2 hw
  exact ⟨raw, _, h, herror, ((ofText_image.2 raw _ h .zero).2 _ herror).2⟩

end Expr

end DialogGate
