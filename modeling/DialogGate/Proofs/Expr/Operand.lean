import DialogGate.Expr.Parser
import DialogGate.Proofs.Operator.Loosest
import DialogGate.Proofs.Operator.Scan
import DialogGate.Proofs.Text.Numeral
import Mathlib.Data.List.Basic

/-! # Reading a text that is put together from operands

An `Operand` is a text that keeps together beside operators that bind looser than its own: it is
balanced, no operator forms across its ends, and all that stands in it outside parentheses binds at
least as tight as a bound. Reading two operands with an operator between them comes to reading each
of them (`parseAt_binary_text`), if the operator binds looser than both, or as tight as the one on
the side to which it groups (`Fits`); the same holds of a negation (`parseAt_not_text`) and of
parentheses (`parseAt_group_text`).
-/

namespace DialogGate

open Occurrence

/-! ## Literals -/

theorem isInert_of_isDigit {c : Char} : Text.isDigit c = true → isInert c = true :=
  isInert_of_class (by decide)

theorem Numeral.Written.inert {whole fraction unsigned : Text}
    (h : Numeral.Written whole fraction unsigned) : ∀ c ∈ unsigned, isInert c = true := by
  obtain ⟨hw, hf, hu⟩ := h
  have hwhole : ∀ c ∈ whole, isInert c = true := fun c hc =>
    isInert_of_isDigit (List.all_eq_true.1 hw c hc)
  rcases hu with ⟨rfl, -, -⟩ | ⟨rfl, -⟩
  · exact hwhole
  · intro c hc
    rcases List.mem_append.1 hc with hc | hc
    · exact hwhole c hc
    · rcases List.mem_cons.1 hc with rfl | hc
      · rfl
      · exact isInert_of_isDigit (List.all_eq_true.1 hf c hc)

/-- A sign before a text that the scan passes over is the only operator there. -/
theorem outside_signed {sign : Char} {rest : Text} (hs : sign = '+' ∨ sign = '-')
    (h : ∀ c ∈ rest, isInert c = true) :
    ∃ op, op ≠ .not ∧ op.precedence = 11 ∧ outside 0 (sign :: rest) = .ok [⟨op, 0⟩] := by
  have hr : outside 1 rest = .ok [] := outside_inert h 1
  have apart (hp : sign ∉ ['|', '&', '=', '!', '<', '>', '*']) : Apart [sign] rest := by
    rintro c d ⟨⟩ -
    exact Operator.ofPair?_eq_none_left hp d
  rcases hs with rfl | rfl
  · have hf : Operator.atFront? ('+' :: rest) = some (.binary .add) :=
      (apart (by decide)).atFront?_append (List.cons_ne_nil _ _)
    exact ⟨.binary .add, by decide, rfl, (outside_operator hf 0).trans (congrArg (Except.map _) hr)⟩
  · have hf : Operator.atFront? ('-' :: rest) = some (.binary .subtract) :=
      (apart (by decide)).atFront?_append (List.cons_ne_nil _ _)
    exact ⟨.binary .subtract, by decide, rfl,
      (outside_operator hf 0).trans (congrArg (Except.map _) hr)⟩

/-- A literal is a boolean or a numeral. -/
theorem Cut.literal?_cases {text : Text} {r : Except ParseError Expr} (h : literal? text = some r) :
    (∃ b : Bool, text = (if b then "true" else "false").toList ∧ r = .ok (.boolean b)) ∨
      ∃ n, Numeral.of? text = some n ∧ ∀ e, r = .ok e → ∃ x, n.value? = some x ∧ e = .number x := by
  unfold literal? at h
  split at h
  · next ht => exact .inl ⟨true, ht, (Option.some.inj h).symm⟩
  split at h
  · next ht => exact .inl ⟨false, ht, (Option.some.inj h).symm⟩
  obtain ⟨n, hn, hr⟩ := Option.map_eq_some_iff.1 h
  refine .inr ⟨n, hn, fun e he => ?_⟩
  rw [he] at hr
  cases hx : n.value? with
  | none => rw [hx] at hr; cases hr
  | some x =>
    rw [hx, Except.ok.injEq] at hr
    exact ⟨x, rfl, hr.symm⟩

/-- The operators that a literal can be taken for: none, or its sign. -/
theorem literal?_outside {text : Text} {r : Except ParseError Expr}
    (h : Cut.literal? text = some r) :
    outside 0 text = .ok [] ∨
      ∃ op, op ≠ .not ∧ op.precedence = 11 ∧ outside 0 text = .ok [⟨op, 0⟩] := by
  rcases Cut.literal?_cases h with ⟨b, rfl, -⟩ | ⟨n, hn, -⟩
  · refine .inl (outside_inert (List.all_eq_true.1 ?_) 0)
    cases b <;> decide
  · rcases Numeral.of?_cases hn with ⟨-, hw⟩ | ⟨sign, rest, rfl, hs, -, hw⟩
    · exact .inl (outside_inert hw.inert 0)
    · exact .inr (outside_signed hs hw.inert)

/-- What does not begin as a literal can is none. -/
theorem literal?_eq_none {c : Char} {rest : Text} (hc : c ∉ ['t', 'f', '+', '-', '.'])
    (hd : Text.isDigit c = false) : Cut.literal? (c :: rest) = none := by
  cases hl : Cut.literal? (c :: rest) with
  | none => rfl
  | some r =>
    refine absurd ?_ hc
    rcases Cut.literal?_cases hl with ⟨b, ht, -⟩ | ⟨n, hn, -⟩
    · cases b with
      | true => rw [(List.cons.inj ht).1]; decide
      | false => rw [(List.cons.inj ht).1]; decide
    · rcases Numeral.of?_cases hn with ⟨-, hw⟩ | ⟨sign, rest', ht, hs, -, -⟩
      · rcases hw.head c rfl with hc | rfl
        · rw [hd] at hc
          cases hc
        · decide
      · rw [(List.cons.inj ht).1]
        rcases hs with rfl | rfl <;> decide

/-! ## Cuts -/

namespace Cut

theorem group?_outside {text inner : Text} (h : group? text = some inner) :
    outside 0 text = .ok [] := by
  unfold group? at h
  split at h
  · next rest =>
    split at h
    · next hc => rw [outside_group hc, List.drop_length, outside_nil]
    · cases h
  · cases h

/-- A text is cut at the loosest operator in it, unless that is a sign at its front. -/
theorem of_eq_split {text : Text} {found : List Occurrence} {o : Occurrence}
    (h : outside 0 text = .ok found) (ho : loosest? found = some o)
    (hs : o.offset ≠ 0 ∨ o.operator = .not) : of text = .ok (split o) := by
  have hm : o ∈ found := loosest?_mem ho
  have hl : literal? text = none := by
    cases hl : literal? text with
    | none => rfl
    | some r =>
      rcases literal?_outside hl with h' | ⟨op, hn, -, h'⟩
      · rw [h, Except.ok.injEq] at h'
        rw [h'] at hm
        cases hm
      · rw [h, Except.ok.injEq] at h'
        rw [h', List.mem_singleton] at hm
        subst hm
        rcases hs with hs | hs
        · exact absurd rfl hs
        · exact absurd hs hn
  have hg : group? text = none := by
    cases hg : group? text with
    | none => rfl
    | some inner =>
      have h' := group?_outside hg
      rw [h, Except.ok.injEq] at h'
      rw [h'] at hm
      cases hm
  rw [of, hl]
  simp only [hg, h, ho]

/-- Parentheses that close each other are taken off. -/
theorem of_enclosed {inner : Text} (h : Balanced inner) :
    of ('(' :: inner ++ [')']) = .ok (group inner) := by
  have hl : literal? ('(' :: inner ++ [')']) = none :=
    literal?_eq_none (by decide) (by decide)
  have hg : group? ('(' :: inner ++ [')']) = some inner := by
    have hc := closing?_enclosed h []
    rw [List.cons_append] at hc ⊢
    rw [group?, hc, if_pos (by simp), List.dropLast_concat]
  rw [of, hl]
  simp only [hg]

end Cut

/-! ## White space around a text -/

namespace Expr

/-- Reading looks at the trimmed text only. -/
theorem parseAt_congr {place place' : Place} {a b : Text} (ha : ¬Text.isBlank a = true)
    (hb : ¬Text.isBlank b = true) (h : Text.trim a = Text.trim b) :
    parseAt place a = parseAt place' b := by
  cases hc : Cut.of (Text.trim b) with
  | error e => rw [parseAt_error ha (h ▸ hc), parseAt_error hb hc]
  | ok cut =>
    cases cut with
    | leaf e => rw [parseAt_leaf ha (h ▸ hc), parseAt_leaf hb hc]
    | group inner => rw [parseAt_group ha (h ▸ hc), parseAt_group hb hc]
    | split o =>
      obtain ⟨op, n⟩ := o
      cases op with
      | not => rw [parseAt_not ha (h ▸ hc), parseAt_not hb hc, h]
      | binary op => rw [parseAt_binary ha (h ▸ hc), parseAt_binary hb hc, h]

theorem parseAt_padded {p : Place} {pre text post : Text} (hpre : Text.isBlank pre = true)
    (hpost : Text.isBlank post = true) (h : Text.Trimmed text) (hne : text ≠ []) :
    parseAt p (pre ++ text ++ post) = parseAt .whole text := by
  refine parseAt_congr (fun hb => ?_) (h.not_isBlank hne) ?_
  · exact h.not_isBlank hne (Text.isBlank_append.1 (Text.isBlank_append.1 hb).1).2
  · rw [Text.trim_enclosed hpre hpost h, Text.trim_eq_self h]

end Expr

/-! ## Operands -/

/-- A text that keeps together beside operators of a precedence below `bound`. -/
structure Operand (bound : Nat) (text : Text) : Prop where
  ne_nil : text ≠ []
  front : ∀ c, text.head? = some c → Text.isSpace c = false ∧ ∀ d, Operator.ofPair? d c = none
  back : ∀ c, text.getLast? = some c → Text.isSpace c = false ∧ ∀ d, Operator.ofPair? c d = none
  balanced : Balanced text
  operators : ∃ found, outside 0 text = .ok found ∧
    ∀ o ∈ found, bound ≤ o.operator.precedence

/-- An operator between operands of the given bounds is the one that the text is cut at. -/
def Fits (op : BinaryOp) (left right : Nat) : Prop :=
  if op.groupsRight then op.precedence < left ∧ op.precedence ≤ right
  else op.precedence ≤ left ∧ op.precedence < right

instance (op : BinaryOp) (left right : Nat) : Decidable (Fits op left right) := by
  unfold Fits
  infer_instance

theorem blank_plain {text : Text} (h : Text.isBlank text = true) : ∀ c ∈ text, isPlain c = true :=
  fun c hc => isPlain_of_isInert (inert_of_isBlank h c hc)

/-- The same as one computation. -/
theorem inert_of_all {text : Text} (h : text.all (fun c => isInert c && !Text.isSpace c) = true) :
    ∀ c ∈ text, isInert c = true ∧ Text.isSpace c = false := by
  intro c hc
  have := List.all_eq_true.1 h c hc
  simpa using this

namespace Operand

variable {p q r : Nat} {a b pre post : Text}

theorem mono (h : Operand p a) (hr : r ≤ p) : Operand r a := by
  obtain ⟨found, hf, ho⟩ := h.operators
  exact ⟨h.ne_nil, h.front, h.back, h.balanced, found, hf, fun o hm => Nat.le_trans hr (ho o hm)⟩

theorem trimmed (h : Operand p a) : Text.Trimmed a :=
  ⟨fun c hc => (h.front c hc).1, fun c hc => (h.back c hc).1⟩

/-- Letters, digits and the like. -/
theorem of_inert (hne : a ≠ []) (h : ∀ c ∈ a, isInert c = true ∧ Text.isSpace c = false) :
    Operand p a where
  ne_nil := hne
  front c hc :=
    have hm := h c (List.mem_of_head? hc)
    ⟨hm.2, ofPair?_inert_right hm.1⟩
  back c hc :=
    have hm := h c (List.mem_of_getLast? hc)
    ⟨hm.2, ofPair?_inert_left hm.1⟩
  balanced := .of_plain fun c hc => isPlain_of_isInert (h c hc).1
  operators := ⟨[], outside_inert (fun c hc => (h c hc).1) 0, by simp⟩

/-! ### Seams -/

/-- The last character of an operand, or of the white space behind it, begins no operator. -/
theorem apart_behind (ha : Operand p a) (hpost : Text.isBlank post = true) (s : Text) :
    Apart (a ++ post) s := by
  intro c d hc _
  rw [List.getLast?_append] at hc
  cases hp : post.getLast? with
  | none =>
    rw [hp, Option.none_or] at hc
    exact (ha.back c hc).2 d
  | some e =>
    rw [hp, Option.some_or, Option.some.injEq] at hc
    subst hc
    exact ofPair?_inert_left (inert_of_isBlank hpost e (List.mem_of_getLast? hp)) d

/-- The first character of an operand, or of the white space before it, ends no operator. -/
theorem apart_before (hb : Operand q b) (hpre : Text.isBlank pre = true) (s : Text) :
    Apart s (pre ++ b) := by
  intro c d _ hd
  rw [List.head?_append] at hd
  cases hp : pre.head? with
  | none =>
    rw [hp, Option.none_or] at hd
    exact (hb.front d hd).2 c
  | some e =>
    rw [hp, Option.some_or, Option.some.injEq] at hd
    subst hd
    exact ofPair?_inert_right (inert_of_isBlank hpre e (List.mem_of_head? hp)) c

theorem outside_behind (hb : Operand q b) (hpre : Text.isBlank pre = true) (op : Operator)
    (offset : Nat) :
    outside offset (op.symbol ++ (pre ++ b)) =
      (outside (offset + op.width) (pre ++ b)).map (⟨op, offset⟩ :: ·) := by
  have hne : op.symbol ≠ [] := List.ne_nil_of_length_pos op.width_pos
  have hf : Operator.atFront? (op.symbol ++ (pre ++ b)) = some op := by
    rw [(hb.apart_before hpre op.symbol).atFront?_append hne, Operator.atFront?_symbol]
  rw [outside_operator hf, Operator.width, List.drop_left]

/-- The operators of two operands with an operator between them. -/
theorem outside_binary (ha : Operand p a) (hb : Operand q b) (hpost : Text.isBlank post = true)
    (hpre : Text.isBlank pre = true) (op : Operator) :
    ∃ xs ys, outside 0 (a ++ post ++ op.symbol ++ pre ++ b) =
        .ok (xs ++ ⟨op, (a ++ post).length⟩ :: ys) ∧
      (∀ x ∈ xs, p ≤ x.operator.precedence) ∧ ∀ y ∈ ys, q ≤ y.operator.precedence := by
  obtain ⟨xs, hx, hxs⟩ := ha.operators
  obtain ⟨ys, hy, hys⟩ := hb.operators
  have hleft : outside 0 (a ++ post) = .ok xs := by
    rw [outside_append_inert _ _ (inert_of_isBlank hpost), hx]
  have hright (n : Nat) : outside n (pre ++ b) = .ok (ys.map (shift (n + pre.length))) := by
    rw [outside_inert_append _ _ (inert_of_isBlank hpre), outside_eq_moved, hy]
    rfl
  refine ⟨xs, ys.map (shift ((a ++ post).length + op.width + pre.length)), ?_, hxs, fun y hm => ?_⟩
  · rw [List.append_assoc, List.append_assoc, outside_append hleft (ha.apart_behind hpost _),
      hb.outside_behind hpre, hright, Nat.zero_add]
    rfl
  · obtain ⟨o, ho, rfl⟩ := List.mem_map.1 hm
    exact hys o ho

/-! ### New operands from old ones -/

theorem binary (ha : Operand p a) (hb : Operand q b) (hpost : Text.isBlank post = true)
    (hpre : Text.isBlank pre = true) (op : Operator) (hp : r ≤ p) (hq : r ≤ q)
    (ho : r ≤ op.precedence) : Operand r (a ++ post ++ op.symbol ++ pre ++ b) where
  ne_nil := by simp [ha.ne_nil]
  front c hc := by
    simp only [List.append_assoc] at hc
    cases a with
    | nil => exact absurd rfl ha.ne_nil
    | cons d a => exact ha.front c hc
  back c hc := by
    rw [List.getLast?_append_of_ne_nil _ hb.ne_nil] at hc
    exact hb.back c hc
  balanced := (((ha.balanced.append (.of_plain (blank_plain hpost))).append
    (.of_plain (symbol_plain op))).append (.of_plain (blank_plain hpre))).append hb.balanced
  operators := by
    obtain ⟨xs, ys, h, hx, hy⟩ := outside_binary ha hb hpost hpre op
    refine ⟨_, h, fun o hm => ?_⟩
    rcases List.mem_append.1 hm with hm | hm
    · exact Nat.le_trans hp (hx o hm)
    · rcases List.mem_cons.1 hm with rfl | hm
      · exact ho
      · exact Nat.le_trans hq (hy o hm)

theorem outside_not (ha : Operand p a) (hpre : Text.isBlank pre = true) :
    ∃ ys, outside 0 ('!' :: (pre ++ a)) = .ok (⟨.not, 0⟩ :: ys) ∧
      ∀ y ∈ ys, p ≤ y.operator.precedence := by
  obtain ⟨ys, hy, hys⟩ := ha.operators
  refine ⟨ys.map (shift (1 + pre.length)), ?_, fun y hm => ?_⟩
  · have h := ha.outside_behind hpre .not 0
    rw [outside_inert_append _ _ (inert_of_isBlank hpre), outside_eq_moved (_ + _), hy] at h
    exact h
  · obtain ⟨o, ho, rfl⟩ := List.mem_map.1 hm
    exact hys o ho

theorem not (ha : Operand 14 a) (hpre : Text.isBlank pre = true) :
    Operand 14 ('!' :: (pre ++ a)) where
  ne_nil := List.cons_ne_nil _ _
  front c hc := by
    obtain rfl := Option.some.inj hc
    exact ⟨by decide, Operator.ofPair?_eq_none_right (by decide)⟩
  back c hc := by
    rw [← List.cons_append, List.getLast?_append_of_ne_nil _ ha.ne_nil] at hc
    exact ha.back c hc
  balanced := ((Balanced.of_plain (symbol_plain .not)).append
    (.of_plain (blank_plain hpre))).append ha.balanced
  operators := by
    obtain ⟨ys, h, hy⟩ := ha.outside_not hpre
    refine ⟨_, h, fun o hm => ?_⟩
    rcases List.mem_cons.1 hm with rfl | hm
    · exact Nat.le_refl _
    · exact hy o hm

theorem enclosed (ha : Balanced a) : Operand p ('(' :: a ++ [')']) where
  ne_nil := by simp
  front c hc := by
    obtain rfl := Option.some.inj hc
    exact ⟨by decide, Operator.ofPair?_eq_none_right (by decide)⟩
  back c hc := by
    rw [List.getLast?_concat, Option.some.injEq] at hc
    subst hc
    exact ⟨by decide, Operator.ofPair?_eq_none_left (by decide)⟩
  balanced := ha.enclosed
  operators := by
    have hc := closing?_enclosed ha []
    refine ⟨[], ?_, by simp⟩
    rw [List.cons_append] at hc ⊢
    rw [outside_group hc, List.drop_of_length_le (by simp), outside_nil]

theorem signed {sign : Char} (hs : sign = '+' ∨ sign = '-') (hne : a ≠ [])
    (h : ∀ c ∈ a, isInert c = true ∧ Text.isSpace c = false) : Operand 11 (sign :: a) where
  ne_nil := List.cons_ne_nil _ _
  front c hc := by
    obtain rfl := Option.some.inj hc
    rcases hs with rfl | rfl <;>
      exact ⟨by decide, Operator.ofPair?_eq_none_right (by decide)⟩
  back c hc := by
    rw [← List.singleton_append, List.getLast?_append_of_ne_nil _ hne] at hc
    have hm := h c (List.mem_of_getLast? hc)
    exact ⟨hm.2, ofPair?_inert_left hm.1⟩
  balanced := .of_plain fun c hc => by
    rcases List.mem_cons.1 hc with rfl | hc
    · rcases hs with rfl | rfl <;> rfl
    · exact isPlain_of_isInert (h c hc).1
  operators := by
    obtain ⟨op, -, hp, ho⟩ := outside_signed hs fun c hc => (h c hc).1
    exact ⟨_, ho, fun o hm => by rw [List.mem_singleton.1 hm]; exact Nat.le_of_eq hp.symm⟩

/-! ### Reading -/

theorem parseAt_behind (ha : Operand p a) (hpost : Text.isBlank post = true) (place : Place) :
    Expr.parseAt place (a ++ post) = Expr.parseAt .whole a := by
  have h : Expr.parseAt place ([] ++ a ++ post) = Expr.parseAt .whole a :=
    Expr.parseAt_padded rfl hpost ha.trimmed ha.ne_nil
  rwa [List.nil_append] at h

theorem parseAt_before (hb : Operand q b) (hpre : Text.isBlank pre = true) (place : Place) :
    Expr.parseAt place (pre ++ b) = Expr.parseAt .whole b := by
  have h : Expr.parseAt place (pre ++ b ++ []) = Expr.parseAt .whole b :=
    Expr.parseAt_padded hpre rfl hb.trimmed hb.ne_nil
  rwa [List.append_nil] at h

end Operand

namespace Expr

variable {p q : Nat} {a b pre post : Text}

theorem cut_binary (ha : Operand p a) (hb : Operand q b) (hpost : Text.isBlank post = true)
    (hpre : Text.isBlank pre = true) {op : BinaryOp} (hf : Fits op p q) :
    Cut.of (a ++ post ++ op.symbol ++ pre ++ b) =
      .ok (.split ⟨.binary op, (a ++ post).length⟩) := by
  obtain ⟨xs, ys, h, hx, hy⟩ := Operand.outside_binary ha hb hpost hpre (.binary op)
  refine Cut.of_eq_split h (loosest?_eq_some_iff.2 ⟨xs, ys, rfl, fun x hm => ?_, fun y hm => ?_⟩)
    (.inl ?_)
  · have hxp := hx x hm
    unfold Fits at hf
    split at hf
    · exact replaces_of_precedence_lt (Nat.lt_of_lt_of_le hf.1 hxp)
    · next hg => exact replaces_of_laterWins (Nat.le_trans hf.1 hxp) (by simp [Operator.laterWins, hg])
  · have hyq := hy y hm
    unfold Fits at hf
    split at hf
    · next hg =>
      exact not_replaces_of_firstWins (Nat.le_trans hf.2 hyq) (by simp [Operator.laterWins, hg])
    · exact not_replaces_of_precedence_lt (Nat.lt_of_lt_of_le hf.2 hyq)
  · have := List.length_pos_of_ne_nil ha.ne_nil
    show (a ++ post).length ≠ 0
    rw [List.length_append]
    omega

theorem parseAt_binary_text (ha : Operand p a) (hb : Operand q b)
    (hpost : Text.isBlank post = true) (hpre : Text.isBlank pre = true) {op : BinaryOp}
    (hf : Fits op p q) (place : Place) :
    parseAt place (a ++ post ++ op.symbol ++ pre ++ b) = (do
      let left ← parseAt .whole a
      let right ← parseAt .whole b
      return binary op left right) := by
  have ht : Operand 0 (a ++ post ++ op.symbol ++ pre ++ b) :=
    ha.binary hb hpost hpre (.binary op) (Nat.zero_le _) (Nat.zero_le _) (Nat.zero_le _)
  have hc := cut_binary ha hb hpost hpre hf
  rw [← Text.trim_eq_self ht.trimmed] at hc
  have hbefore : Occurrence.before ⟨.binary op, (a ++ post).length⟩
      (a ++ post ++ op.symbol ++ pre ++ b) = a ++ post := by
    rw [Occurrence.before, List.append_assoc, List.append_assoc, List.take_left]
  have hafter : Occurrence.after ⟨.binary op, (a ++ post).length⟩
      (a ++ post ++ op.symbol ++ pre ++ b) = pre ++ b := by
    rw [Occurrence.after, Operator.width, Operator.symbol, ← List.length_append,
      List.append_assoc _ pre b, List.drop_left]
  rw [parseAt_binary (ht.trimmed.not_isBlank ht.ne_nil) hc, Text.trim_eq_self ht.trimmed, hbefore,
    hafter, ha.parseAt_behind hpost, hb.parseAt_before hpre]

theorem cut_not (ha : Operand 14 a) (hpre : Text.isBlank pre = true) :
    Cut.of ('!' :: (pre ++ a)) = .ok (.split ⟨.not, 0⟩) := by
  obtain ⟨ys, h, hy⟩ := ha.outside_not hpre
  refine Cut.of_eq_split h (loosest?_eq_some_iff.2 ⟨[], ys, rfl, by simp, fun y hm => ?_⟩) (.inr rfl)
  exact not_replaces_of_firstWins (hy y hm) rfl

theorem parseAt_not_text (ha : Operand 14 a) (hpre : Text.isBlank pre = true) (place : Place) :
    parseAt place ('!' :: (pre ++ a)) = (parseAt .whole a).map not := by
  have ht := ha.not hpre
  have hc := cut_not ha hpre
  rw [← Text.trim_eq_self ht.trimmed] at hc
  rw [parseAt_not (ht.trimmed.not_isBlank ht.ne_nil) hc, Text.trim_eq_self ht.trimmed]
  have hafter : Occurrence.after ⟨.not, 0⟩ ('!' :: (pre ++ a)) = pre ++ a := rfl
  rw [hafter, ha.parseAt_before hpre]
  rfl

theorem parseAt_group_text (ha : Operand p a) (hpre : Text.isBlank pre = true)
    (hpost : Text.isBlank post = true) (place : Place) :
    parseAt place ('(' :: (pre ++ a ++ post) ++ [')']) = parseAt .whole a := by
  have hb : Balanced (pre ++ a ++ post) :=
    ((Balanced.of_plain (blank_plain hpre)).append ha.balanced).append (.of_plain (blank_plain hpost))
  have ht : Operand 0 ('(' :: (pre ++ a ++ post) ++ [')']) := .enclosed hb
  have hc := Cut.of_enclosed hb
  rw [← Text.trim_eq_self ht.trimmed] at hc
  rw [parseAt_group (ht.trimmed.not_isBlank ht.ne_nil) hc,
    parseAt_padded hpre hpost ha.trimmed ha.ne_nil]

end Expr

end DialogGate
