import DialogGate.Proofs.Operator.Scan

/-! # Parentheses that are never closed

A `(` is unclosed if, counted from it on, there is never a `)` for every `(` (`Unclosed`). The
search for its `)` goes by depth and fails on exactly these (`unclosed_iff`).

A scan jumps over what stands in parentheses without looking at it. No `(` is unclosed in there
(`closed_inside`): with fewer parentheses open a text is closed earlier (`exists_closingFrom_lt`),
so an inner `(` is closed before the outer one is. That makes the scan report the first of all `(`
that are unclosed, and fail only if there is one (`reports_outside`).
-/

namespace DialogGate

/-- A `(` that is never closed: no piece of text that begins with it has as many `)` as `(`. -/
structure Unclosed (text : Text) (i : Nat) : Prop where
  opens : text[i]? = some '('
  uneven : ∀ piece, piece <+: text.drop i → piece ≠ [] → piece.count '(' ≠ piece.count ')'

theorem Unclosed.lt_length {text : Text} {i : Nat} (h : Unclosed text i) : i < text.length :=
  (List.getElem?_eq_some_iff.1 h.opens).1

/-! ## Depth and count -/

theorem forall_prefix_cons {P : Text → Prop} {c : Char} {rest : Text} :
    (∀ piece, piece <+: c :: rest → P piece) ↔ P [] ∧ ∀ piece, piece <+: rest → P (c :: piece) := by
  simp only [List.prefix_cons_iff]
  constructor
  · intro h
    exact ⟨h [] (.inl rfl), fun piece hp => h _ (.inr ⟨piece, rfl, hp⟩)⟩
  · rintro ⟨hnil, hcons⟩ _ (rfl | ⟨piece, rfl, hp⟩)
    · exact hnil
    · exact hcons piece hp

/-- The open parentheses are never all closed if no piece has a `)` for each of them and for each
`(` of its own. -/
theorem closingFrom_eq_none_iff {depth : Nat} {text : Text} (hd : 0 < depth) :
    closingFrom depth text = none ↔
      ∀ piece, piece <+: text → depth + piece.count '(' ≠ piece.count ')' := by
  fun_induction closingFrom depth text with
  | case1 depth =>
    simp only [List.prefix_nil, forall_eq, true_iff, List.count_nil]
    omega
  | case2 depth rest ih =>
    have hnil : depth + List.count '(' [] ≠ List.count ')' [] := Nat.ne_of_gt hd
    rw [Option.map_eq_none_iff, ih (Nat.succ_pos _), forall_prefix_cons, and_iff_right hnil]
    refine forall₂_congr fun piece _ => ?_
    rw [List.count_cons_self, List.count_cons_of_ne (by decide)]
    omega
  | case3 rest =>
    refine iff_of_false (by simp) fun h => ?_
    exact h [')'] (by simp) (by decide)
  | case4 depth rest h1 ih =>
    have hnil : depth + List.count '(' [] ≠ List.count ')' [] := Nat.ne_of_gt hd
    rw [Option.map_eq_none_iff, ih (by omega), forall_prefix_cons, and_iff_right hnil]
    refine forall₂_congr fun piece _ => ?_
    rw [List.count_cons_self, List.count_cons_of_ne (by decide)]
    omega
  | case5 depth c rest h1 h2 ih =>
    have hnil : depth + List.count '(' [] ≠ List.count ')' [] := Nat.ne_of_gt hd
    rw [Option.map_eq_none_iff, ih hd, forall_prefix_cons, and_iff_right hnil]
    refine forall₂_congr fun piece _ => ?_
    rw [List.count_cons_of_ne h1, List.count_cons_of_ne h2]

theorem closing?_eq_none_iff {rest : Text} :
    closing? ('(' :: rest) = none ↔
      ∀ piece, piece <+: '(' :: rest → piece ≠ [] → piece.count '(' ≠ piece.count ')' := by
  rw [closing?, closingFrom, Option.map_eq_none_iff, closingFrom_eq_none_iff (Nat.succ_pos 0),
    forall_prefix_cons, and_iff_right fun h => absurd rfl h]
  refine forall₂_congr fun piece _ => ?_
  rw [List.count_cons_self, List.count_cons_of_ne (by decide), forall_prop_of_true (by simp)]
  omega

/-- The search for the `)` finds none exactly if the `(` is unclosed. -/
theorem unclosed_iff {text : Text} {i : Nat} :
    Unclosed text i ↔ ∃ rest, text.drop i = '(' :: rest ∧ closing? ('(' :: rest) = none := by
  constructor
  · rintro ⟨hopen, huneven⟩
    obtain ⟨rest, hdrop⟩ := getElem?_eq_some_iff_drop.1 hopen
    rw [hdrop] at huneven
    exact ⟨rest, hdrop, closing?_eq_none_iff.2 huneven⟩
  · rintro ⟨rest, hdrop, hnone⟩
    refine ⟨getElem?_eq_some_iff_drop.2 ⟨rest, hdrop⟩, ?_⟩
    rw [hdrop]
    exact closing?_eq_none_iff.1 hnone

/-! ## Inside parentheses -/

/-- A text closes fewer open parentheses earlier. -/
theorem exists_closingFrom_lt {depth fewer n : Nat} {text : Text}
    (h : closingFrom depth text = some n) (hf : 0 < fewer) (hlt : fewer < depth) :
    ∃ m, closingFrom fewer text = some m ∧ m < n := by
  fun_induction closingFrom depth text generalizing fewer n with
  | case1 => cases h
  | case2 depth rest ih =>
    obtain ⟨k, hk, rfl⟩ := Option.map_eq_some_iff.1 h
    obtain ⟨m, hm, hmk⟩ := ih hk (Nat.succ_pos fewer) (Nat.succ_lt_succ hlt)
    exact ⟨m + 1, by rw [closingFrom, hm, Option.map_some], Nat.succ_lt_succ hmk⟩
  | case3 rest => omega
  | case4 depth rest hd ih =>
    obtain ⟨k, hk, rfl⟩ := Option.map_eq_some_iff.1 h
    rw [closingFrom]
    by_cases h1 : fewer = 1
    · exact ⟨0, if_pos h1, Nat.succ_pos k⟩
    · obtain ⟨m, hm, hmk⟩ := ih hk (show 0 < fewer - 1 by omega) (by omega)
      exact ⟨m + 1, by rw [if_neg h1, hm, Option.map_some], Nat.succ_lt_succ hmk⟩
  | case5 depth c rest h1 h2 ih =>
    obtain ⟨k, hk, rfl⟩ := Option.map_eq_some_iff.1 h
    obtain ⟨m, hm, hmk⟩ := ih hk hf hlt
    have hc : isPlain c = true := by
      simp only [isPlain, Bool.and_eq_true, decide_eq_true_eq]
      exact ⟨h1, h2⟩
    exact ⟨m + 1, by rw [closingFrom_cons_plain hc, hm, Option.map_some], Nat.succ_lt_succ hmk⟩

/-- Up to where a text closes open parentheses, every `(` in it is closed before. -/
theorem closed_inside {depth n i : Nat} {text rest : Text} (h : closingFrom depth text = some n)
    (hd : 0 < depth) (hi : i ≤ n) (hrest : text.drop i = '(' :: rest) :
    ∃ m, closing? ('(' :: rest) = some m ∧ i + m < n := by
  fun_induction closingFrom depth text generalizing n i with
  | case1 => cases h
  | case2 depth text ih =>
    obtain ⟨k, hk, rfl⟩ := Option.map_eq_some_iff.1 h
    cases i with
    | zero =>
      obtain rfl := (List.cons.inj hrest).2
      obtain ⟨m, hm, hmk⟩ := exists_closingFrom_lt hk Nat.one_pos (Nat.succ_lt_succ hd)
      refine ⟨m + 1, ?_, by omega⟩
      rw [closing?, closingFrom, hm, Option.map_some]
    | succ i =>
      obtain ⟨m, hm, hmk⟩ := ih hk (Nat.succ_pos _) (Nat.le_of_succ_le_succ hi) hrest
      exact ⟨m, hm, by omega⟩
  | case3 text =>
    obtain rfl := Option.some.inj h
    obtain rfl := Nat.le_zero.1 hi
    cases hrest
  | case4 depth text h1 ih =>
    obtain ⟨k, hk, rfl⟩ := Option.map_eq_some_iff.1 h
    cases i with
    | zero => cases hrest
    | succ i =>
      obtain ⟨m, hm, hmk⟩ := ih hk (by omega) (Nat.le_of_succ_le_succ hi) hrest
      exact ⟨m, hm, by omega⟩
  | case5 depth c text h1 h2 ih =>
    obtain ⟨k, hk, rfl⟩ := Option.map_eq_some_iff.1 h
    cases i with
    | zero => exact absurd (List.cons.inj hrest).1 h1
    | succ i =>
      obtain ⟨m, hm, hmk⟩ := ih hk hd (Nat.le_of_succ_le_succ hi) hrest
      exact ⟨m, hm, by omega⟩

/-- No `(` is unclosed before the `)` that closes the first one. -/
theorem not_unclosed_of_closing? {rest : Text} {close i : Nat}
    (h : closing? ('(' :: rest) = some close) (hi : i ≤ close) : ¬Unclosed ('(' :: rest) i := by
  intro hu
  obtain ⟨behind, hdrop, hnone⟩ := unclosed_iff.1 hu
  cases i with
  | zero =>
    obtain rfl := (List.cons.inj hdrop).2
    rw [h] at hnone
    cases hnone
  | succ i =>
    rw [closing?, closingFrom] at h
    obtain ⟨k, hk, rfl⟩ := Option.map_eq_some_iff.1 h
    obtain ⟨m, hm, -⟩ := closed_inside hk Nat.one_pos (Nat.le_of_succ_le_succ hi) hdrop
    rw [hm] at hnone
    cases hnone

/-- No `(` is unclosed inside parentheses that close each other. -/
theorem not_unclosed_of_enclosed {inner : Text}
    (h : closing? ('(' :: inner ++ [')']) = some (inner.length + 1)) (i : Nat) :
    ¬Unclosed inner i := by
  intro hu
  obtain ⟨rest, hdrop, hnone⟩ := unclosed_iff.1 hu
  have hlen := congrArg List.length hdrop
  simp only [List.length_drop, List.length_cons] at hlen
  have hdrop' : (inner ++ [')']).drop i = '(' :: (rest ++ [')']) := by
    rw [List.drop_append_of_le_length (by omega), hdrop, List.cons_append]
  rw [List.cons_append, closing?, closingFrom] at h
  obtain ⟨k, hk, hkl⟩ := Option.map_eq_some_iff.1 h
  obtain rfl : k = inner.length := by omega
  obtain ⟨m, hm, hlt⟩ := closed_inside hk Nat.one_pos (by omega) hdrop'
  -- it is closed before the outer parenthesis is, so by a character of the inner text
  have hinner : closing? ('(' :: rest) = some m := by
    refine closingFrom_of_append (b := [')']) hm ?_
    simp only [List.length_cons]
    omega
  rw [hinner] at hnone
  cases hnone

/-! ## What a scan reports -/

theorem unclosed_drop_iff {text : Text} {k i : Nat} :
    Unclosed (text.drop k) i ↔ Unclosed text (k + i) := by
  rw [unclosed_iff, unclosed_iff, List.drop_drop]

namespace Occurrence

/-- The result of a scan tells of the first `(` that is unclosed, if there is one. -/
def Reports (text : Text) : Except Nat (List Occurrence) → Prop
  | .ok _ => ∀ i, ¬Unclosed text i
  | .error position => Unclosed text position ∧ ∀ i < position, ¬Unclosed text i

variable {text : Text}

/-- Text in which no `(` is unclosed may stand in front. -/
theorem Reports.moved {k : Nat} {result : Except Nat (List Occurrence)}
    (h : Reports (text.drop k) result) (hk : ∀ i < k, ¬Unclosed text i) :
    Reports text (moved k result) := by
  have hfront (n : Nat) (hn : ∀ i, k + i < n → ¬Unclosed text (k + i)) (i : Nat) (hi : i < n) :
      ¬Unclosed text i := by
    by_cases hik : i < k
    · exact hk i hik
    · rw [← Nat.add_sub_cancel' (Nat.not_lt.1 hik)]
      exact hn _ (by omega)
  cases result with
  | ok found =>
    intro i
    refine hfront (i + 1) (fun j _ hu => h j (unclosed_drop_iff.2 hu)) i (Nat.lt_succ_self i)
  | error position =>
    obtain ⟨hu, hfirst⟩ := h
    refine ⟨?_, hfront _ fun j hj hu => hfirst j (by omega) (unclosed_drop_iff.2 hu)⟩
    rw [Nat.add_comm]
    exact unclosed_drop_iff.1 hu

theorem Reports.map {result : Except Nat (List Occurrence)} (h : Reports text result)
    (f : List Occurrence → List Occurrence) : Reports text (result.map f) := by
  cases result with
  | ok found => exact h
  | error position => exact h

theorem reports_outside (text : Text) : Reports text (outside 0 text) := by
  induction text using scan_induction with
  | nil =>
    rw [outside_nil]
    rintro i ⟨hopen, -⟩
    cases hopen
  | group rest close h ih =>
    rw [outside_group h, Nat.zero_add, outside_eq_moved]
    refine Reports.moved ih fun i hi => ?_
    exact not_unclosed_of_closing? h (Nat.le_of_lt_succ hi)
  | unclosed rest h =>
    rw [outside_unclosed h]
    exact ⟨unclosed_iff.2 ⟨rest, rfl, h⟩, fun i hi => absurd hi (Nat.not_lt_zero i)⟩
  | operator text op h ih =>
    rw [outside_operator h, Nat.zero_add, outside_eq_moved]
    refine (ih.moved fun i hi hu => ?_).map _
    obtain ⟨tail, rfl⟩ := Operator.symbol_prefix_of_atFront? h
    have hopen := hu.opens
    rw [List.getElem?_append_left hi] at hopen
    exact absurd (symbol_plain op '(' (List.mem_of_getElem? hopen)) (by decide)
  | skip c rest hc h ih =>
    rw [outside_skip hc h, Nat.zero_add, outside_eq_moved]
    refine Reports.moved ih fun i hi hu => ?_
    obtain rfl := Nat.lt_one_iff.1 hi
    exact hc (Option.some.inj hu.opens)

end Occurrence

end DialogGate
