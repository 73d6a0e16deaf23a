import DialogGate.Proofs.Expr.Grammar

/-! # The parser accepts exactly its grammar

`parseAt_of_derives`: a derived text is read as its tree, by induction on the derivation; each
production is one of the ways in which a text is put together from operands.

`derives_of_parseAt`: what is read is derived, on every level that admits the operators outside
parentheses (`BindsFrom`), by induction on the cuts. The operator a text is cut at splits these into
those of the left part, which bind at least as tight, and those of the right part, which bind
tighter, or the other way round.

Both together are about the whole text (`ofText_of_sentence`, `sentence_of_ofText`), after the
keyword `not` is spelled as an operator.
-/

namespace DialogGate

open Occurrence Grammar

/-! ## Literals and variables -/

namespace Grammar

theorem Unsigned.isDigits {t w f : Text} (h : Unsigned t w f) : Text.IsDigits (w ++ f) := by
  cases h with
  | whole _ hw => rwa [List.append_nil]
  | point _ hw hf => exact hw.append hf
  | fraction _ hf => rwa [List.nil_append]

theorem Unsigned.written {t w f : Text} (h : Unsigned t w f) : Numeral.Written w f t := by
  cases h with
  | whole hne hw => exact ⟨hw.all_isDigit, rfl, .inl ⟨rfl, hne, rfl⟩⟩
  | point hne hw hf => exact ⟨hw.all_isDigit, hf.all_isDigit, .inr ⟨rfl, .inl hne⟩⟩
  | fraction hne hf => exact ⟨rfl, hf.all_isDigit, .inr ⟨rfl, .inr hne⟩⟩

theorem unsigned_of_written {t w f : Text} (h : Numeral.Written w f t)
    (hd : Text.IsDigits (w ++ f)) : Unsigned t w f := by
  have hw : Text.IsDigits w := fun c hc => hd c (List.mem_append_left _ hc)
  have hf : Text.IsDigits f := fun c hc => hd c (List.mem_append_right _ hc)
  obtain ⟨-, -, ⟨rfl, hne, rfl⟩ | ⟨rfl, hne⟩⟩ := h
  · exact .whole hne hw
  · cases w with
    | nil => exact .fraction (hne.resolve_left (absurd rfl)) hf
    | cons c w => exact .point (List.cons_ne_nil c w) hw hf

theorem Unsigned.unsign_eq {t w f : Text} (h : Unsigned t w f) :
    Numeral.unsign t = (false, t) := by
  refine Numeral.unsign_eq_self fun c hc => ?_
  rcases h.written.head c hc with hd | rfl
  · constructor <;> · rintro rfl; exact absurd hd (by decide)
  · decide

theorem value?_eq_literal {negative : Bool} {w f : Text} (h : Text.IsDigits (w ++ f)) :
    (⟨negative, w, f⟩ : Numeral).value? = some (literal negative w f) := by
  have hn : Text.natOf? (w ++ f) = some (Nat.ofDigitChars 10 (w ++ f) 0) :=
    Text.natOf?_eq_some_iff.2 ⟨h, rfl⟩
  rw [Numeral.value?, Numeral.scaled?, hn, Option.map_some, Int.zero_sub]
  rfl

/-- A numeral is a literal, since it is neither `true` nor `false`. -/
theorem literal?_of_numeral {t : Text} {n : Numeral} (h : Numeral.of? t = some n) {x : Binary64}
    (hx : n.value? = some x) : Cut.literal? t = some (.ok (.number x)) := by
  have h1 : t ≠ "true".toList := by
    rintro rfl
    rw [show Numeral.of? "true".toList = none by decide] at h
    cases h
  have h2 : t ≠ "false".toList := by
    rintro rfl
    rw [show Numeral.of? "false".toList = none by decide] at h
    cases h
  rw [Cut.literal?, if_neg h1, if_neg h2, h, Option.map_some, hx]

theorem Unsigned.literal? {t w f : Text} (h : Unsigned t w f) :
    Cut.literal? t = some (.ok (.number (literal false w f))) := by
  have hn : Numeral.of? t = some ⟨false, w, f⟩ := by
    rw [Numeral.of?_eq_some_iff, h.unsign_eq]
    exact ⟨rfl, h.written⟩
  exact literal?_of_numeral hn (value?_eq_literal h.isDigits)

theorem Unsigned.literal?_signed {sign : Char} {t w f : Text} (h : Unsigned t w f)
    (hs : sign = '+' ∨ sign = '-') :
    Cut.literal? (sign :: t) = some (.ok (.number (literal (sign = '-') w f))) := by
  have hu : Numeral.unsign (sign :: t) = (decide (sign = '-'), t) := by
    rcases hs with rfl | rfl <;> rfl
  have hn : Numeral.of? (sign :: t) = some ⟨decide (sign = '-'), w, f⟩ := by
    rw [Numeral.of?_eq_some_iff, hu]
    exact ⟨rfl, h.written⟩
  exact literal?_of_numeral hn (value?_eq_literal h.isDigits)

theorem derives_of_literal? {t : Text} {e : Expr} (h : Cut.literal? t = some (.ok e)) :
    Derives .primary t e ∨
      Derives .sum t e ∧ ∃ op, op.precedence = 11 ∧ outside 0 t = .ok [⟨op, 0⟩] := by
  rcases Cut.literal?_cases h with ⟨b, rfl, he⟩ | ⟨⟨negative, w, f⟩, hn, he⟩
  · obtain rfl := Except.ok.inj he
    exact .inl (.boolean b)
  · obtain ⟨x, hx, rfl⟩ := he e rfl
    obtain ⟨m, hm, -⟩ := Option.map_eq_some_iff.1 hx
    have hd : Text.IsDigits (w ++ f) := (Text.natOf?_eq_some_iff.1 hm).1
    rw [value?_eq_literal hd, Option.some.injEq] at hx
    subst hx
    rcases Numeral.of?_cases hn with ⟨rfl, hw⟩ | ⟨sign, rest, rfl, hs, rfl, hw⟩
    · exact .inl (.number (unsigned_of_written hw hd))
    · obtain ⟨op, -, hp, ho⟩ := outside_signed hs hw.inert
      exact .inr ⟨.signed hs (unsigned_of_written hw hd), op, hp, ho⟩

theorem variableDigits?_eq_some_iff {t digits : Text} :
    Cut.variableDigits? t = some digits ↔ ∃ v, (v = 'v' ∨ v = 'V') ∧ digits ≠ [] ∧
      digits.all Text.isDigit = true ∧ t = '\\' :: v :: '[' :: digits ++ [']'] := by
  have hclose : ∀ c, [']'].head? = some c → Text.isDigit c = false := by
    rintro c ⟨⟩
    decide
  constructor
  · intro h
    unfold Cut.variableDigits? at h
    split at h
    · next v rest =>
      obtain ⟨⟨hv, hne, hr⟩, hd⟩ := Option.ite_none_right_eq_some.1 h
      obtain rfl := Option.some.inj hd
      refine ⟨v, hv, hne, List.all_takeWhile, ?_⟩
      rw [List.cons_append, List.cons_append, List.cons_append, ← hr,
        List.takeWhile_append_dropWhile]
    · cases h
  · rintro ⟨v, hv, hne, hd, rfl⟩
    simp only [List.cons_append, Cut.variableDigits?, Text.takeWhile_isDigit hd hclose,
      Text.dropWhile_isDigit hd hclose]
    rw [if_pos ⟨hv, hne, trivial⟩]

theorem derives_of_reference {t : Text} {e : Expr} (h : Cut.reference t = .ok e) :
    Derives .primary t e := by
  unfold Cut.reference at h
  split at h
  · next digits hvd =>
    obtain ⟨v, hv, hne, -, rfl⟩ := variableDigits?_eq_some_iff.1 hvd
    cases hn : Text.natOf? digits with
    | none => rw [hn] at h; cases h
    | some n =>
      obtain ⟨hd, rfl⟩ := Text.natOf?_eq_some_iff.1 hn
      rw [hn, Option.map_some, Except.ok.injEq] at h
      subst h
      have hx : literal false digits [] =
          Binary64.ofDecimal false (Nat.ofDigitChars 10 digits 0) 0 := by
        rw [literal, List.append_nil]
        rfl
      exact hx ▸ .lookup hv hne hd
  · cases h

theorem reference_eq_ok {v : Char} {digits : Text} (hv : v = 'v' ∨ v = 'V') (hne : digits ≠ [])
    (hd : Text.IsDigits digits) :
    Cut.reference ('\\' :: v :: '[' :: digits ++ [']']) =
      .ok (.lookup (.number (literal false digits []))) := by
  have h := variableDigits?_eq_some_iff.2 ⟨v, hv, hne, hd.all_isDigit, rfl⟩
  have hn : Text.natOf? digits = some _ := Text.natOf?_eq_some_iff.2 ⟨hd, rfl⟩
  rw [Cut.reference, h]
  simp only [hn, Option.map_some, literal, List.append_nil]
  rfl

/-! ## Operations with white space -/

theorem derives_not {left right : Text} {x : Expr}
    (h : Text.Trimmed (left ++ Operator.not.symbol ++ right)) (hl : Text.isBlank left = true)
    (hx : Derives .unary (Text.trim right) x) :
    Derives .unary (left ++ Operator.not.symbol ++ right) (.not x) := by
  obtain ⟨pre, hpre, hr⟩ := h.exists_right
  rw [List.append_assoc] at h
  rw [h.blank_append hl, hr]
  have hd : Derives .unary ('!' :: (pre ++ Text.trim right)) (.not x) := .not hpre hx
  exact hd

theorem derives_left {l l' : Level} {op : BinaryOp} {left right : Text} {x y : Expr}
    (h : Text.Trimmed (left ++ op.symbol ++ right)) (hop : op ∈ l.operators)
    (hn : l.next? = some l') (hx : Derives l (Text.trim left) x)
    (hy : Derives l' (Text.trim right) y) :
    Derives l (left ++ op.symbol ++ right) (.binary op x y) := by
  obtain ⟨pre, hpre, hr⟩ := h.exists_right
  rw [List.append_assoc] at h
  obtain ⟨post, hpost, hl⟩ := h.exists_left
  rw [hl, hr, ← List.append_assoc]
  exact .left hop hn hx hpost hpre hy

theorem derives_power {left right : Text} {x y : Expr}
    (h : Text.Trimmed (left ++ BinaryOp.power.symbol ++ right))
    (hx : Derives .unary (Text.trim left) x) (hy : Derives .power (Text.trim right) y) :
    Derives .power (left ++ BinaryOp.power.symbol ++ right) (.binary .power x y) := by
  obtain ⟨pre, hpre, hr⟩ := h.exists_right
  rw [List.append_assoc] at h
  obtain ⟨post, hpost, hl⟩ := h.exists_left
  rw [hl, hr, ← List.append_assoc]
  exact .power hx hpost hpre hy

end Grammar

/-! ## What is derived is read -/

namespace Expr

theorem parseAt_literal {p : Nat} {t : Text} {e : Expr} (ht : Operand p t)
    (h : Cut.literal? t = some (.ok e)) (place : Place) : parseAt place t = .ok e := by
  refine parseAt_leaf (ht.trimmed.not_isBlank ht.ne_nil) ?_
  rw [Text.trim_eq_self ht.trimmed, Cut.of, h]
  rfl

theorem parseAt_lookup {v : Char} {digits : Text} (hv : v = 'v' ∨ v = 'V') (hne : digits ≠ [])
    (hd : Text.IsDigits digits) (place : Place) :
    parseAt place ('\\' :: v :: '[' :: digits ++ [']']) =
      .ok (.lookup (.number (literal false digits []))) := by
  have ht := lookup_operand 0 hv hd
  have ho : outside 0 ('\\' :: v :: '[' :: digits ++ [']']) = .ok [] := by
    obtain ⟨found, hf, hp⟩ := (lookup_operand 15 hv hd).operators
    cases found with
    | nil => exact hf
    | cons o found =>
      have := hp o (.head _)
      have := Level.precedence_le o.operator
      omega
  have hl : Cut.literal? ('\\' :: v :: '[' :: digits ++ [']']) = none :=
    literal?_eq_none (by decide) (by decide)
  have hg : Cut.group? ('\\' :: v :: '[' :: digits ++ [']']) = none := rfl
  refine parseAt_leaf (ht.trimmed.not_isBlank ht.ne_nil) ?_
  rw [Text.trim_eq_self ht.trimmed, Cut.of, hl]
  simp only [hg, ho, loosest?, reference_eq_ok hv hne hd]
  rfl

theorem parseAt_of_derives {l : Level} {t : Text} {e : Expr} (h : Derives l t e) (place : Place) :
    parseAt place t = .ok e := by
  induction h generalizing place with
  | tighter _ _ ih => exact ih place
  | left hop hn ha hpost hpre hb iha ihb =>
    have hfits := Level.fits_of_mem hop hn
    rw [parseAt_binary_text ha.operand hb.operand hpost hpre hfits, iha, ihb]
    rfl
  | power ha hpost hpre hb iha ihb =>
    have hfits : Fits .power Level.unary.bound Level.power.bound := by decide
    rw [parseAt_binary_text ha.operand hb.operand hpost hpre hfits, iha, ihb]
    rfl
  | signed hs hu => exact parseAt_literal (.signed hs hu.ne_nil hu.inert) (hu.literal?_signed hs) place
  | not hpre ha ih =>
    rw [parseAt_not_text ha.operand hpre, ih]
    rfl
  | boolean b =>
    refine parseAt_literal (boolean_operand 0 b) ?_ place
    cases b <;> rfl
  | number hu => exact parseAt_literal (.of_inert (p := 0) hu.ne_nil hu.inert) hu.literal? place
  | lookup hv hne hd => exact parseAt_lookup hv hne hd place
  | group hpre ha hpost ih => rw [parseAt_group_text ha.operand hpre hpost, ih]

end Expr

/-! ## What is read is derived -/

/-- All operators outside parentheses bind at least as tight as `bound`. -/
def BindsFrom (bound : Nat) (text : Text) : Prop :=
  ∃ found, outside 0 text = .ok found ∧ ∀ o ∈ found, bound ≤ o.operator.precedence

namespace BindsFrom

variable {n m : Nat} {text : Text}

theorem of_outside {offset : Nat} {found : List Occurrence} (h : outside offset text = .ok found)
    (hp : ∀ o ∈ found, n ≤ o.operator.precedence) : BindsFrom n text := by
  rw [outside_eq_moved] at h
  cases ho : outside 0 text with
  | error position => rw [ho] at h; cases h
  | ok found' =>
    rw [ho, moved, Except.ok.injEq] at h
    subst h
    exact ⟨found', ho, fun o hm => hp (shift offset o) (List.mem_map_of_mem hm)⟩

theorem trim (h : BindsFrom n text) : BindsFrom n (Text.trim text) := by
  obtain ⟨found, hf, hp⟩ := h
  obtain ⟨k, hk⟩ := outside_trim text
  rw [hf, ← Nat.zero_add k, ← outside_add] at hk
  exact of_outside hk.symm hp

/-- A level that all operators are tighter than may be left for the next one. -/
theorem next {l l' : Level} (h : BindsFrom (l.bound + 1) text) (hn : l.next? = some l') :
    BindsFrom l'.bound text := by
  obtain ⟨found, hf, hp⟩ := h
  exact ⟨found, hf, fun o ho => Level.bound_next_le hn (hp o ho)⟩

end BindsFrom

namespace Cut

theorem eq_of_group? {text inner : Text} (h : group? text = some inner) :
    text = '(' :: inner ++ [')'] := by
  unfold group? at h
  split at h
  · next rest =>
    obtain ⟨hc, hr⟩ := Option.ite_none_right_eq_some.1 h
    have hlast : ('(' :: rest).getLast? = some ')' := by
      rw [List.getLast?_eq_getElem?]
      exact getElem?_closingFrom hc
    cases rest with
    | nil => exact absurd hlast (by decide)
    | cons c rest =>
      obtain ⟨s, hs⟩ := List.getLast?_eq_some_iff.1 ((List.getLast?_cons_cons ..).symm.trans hlast)
      rw [hs, List.dropLast_concat, Option.some.injEq] at hr
      rw [hs, ← hr]
      rfl
  · cases h

/-- Everything that a cut can be. -/
theorem of_cases {text : Text} {c : Cut} (h : of text = .ok c) :
    (∃ e, c = leaf e ∧ literal? text = some (.ok e)) ∨
      (∃ inner, c = group inner ∧ group? text = some inner) ∨
      ∃ found, outside 0 text = .ok found ∧
        ((∃ o, c = split o ∧ loosest? found = some o) ∨ ∃ e, c = leaf e ∧ reference text = .ok e) := by
  unfold of at h
  split at h
  · next r hl =>
    cases r with
    | error err => cases h
    | ok e => exact .inl ⟨e, (Except.ok.inj h).symm, hl⟩
  split at h
  · next inner hg => exact .inr (.inl ⟨inner, (Except.ok.inj h).symm, hg⟩)
  split at h
  · cases h
  · next found hf =>
    refine .inr (.inr ⟨found, hf, ?_⟩)
    split at h
    · next o ho => exact .inl ⟨o, (Except.ok.inj h).symm, ho⟩
    · cases hr : reference text with
      | error err => rw [hr] at h; cases h
      | ok e =>
        rw [hr] at h
        exact .inr ⟨e, (Except.ok.inj h).symm, rfl⟩

theorem outside_of_of_eq_ok {text : Text} {c : Cut} (h : of text = .ok c) :
    ∃ found, outside 0 text = .ok found := by
  rcases of_cases h with ⟨e, -, hl⟩ | ⟨inner, -, hg⟩ | ⟨found, hf, -⟩
  · rcases literal?_outside hl with ho | ⟨op, -, -, ho⟩
    · exact ⟨_, ho⟩
    · exact ⟨_, ho⟩
  · exact ⟨_, group?_outside hg⟩
  · exact ⟨found, hf⟩

theorem of_eq_leaf {text : Text} {e : Expr} (h : of text = .ok (leaf e)) :
    literal? text = some (.ok e) ∨ reference text = .ok e := by
  rcases of_cases h with ⟨e', he, hl⟩ | ⟨inner, hi, -⟩ | ⟨found, -, ⟨o, ho, -⟩ | ⟨e', he, hr⟩⟩
  · obtain rfl := leaf.inj he
    exact .inl hl
  · cases hi
  · cases ho
  · obtain rfl := leaf.inj he
    exact .inr hr

theorem of_eq_group {text inner : Text} (h : of text = .ok (group inner)) :
    text = '(' :: inner ++ [')'] := by
  rcases of_cases h with ⟨e, he, -⟩ | ⟨inner', hi, hg⟩ | ⟨found, -, ⟨o, ho, -⟩ | ⟨e, he, -⟩⟩
  · cases he
  · obtain rfl := group.inj hi
    exact eq_of_group? hg
  · cases ho
  · cases he

/-- The sides of the operator that a text is cut at. -/
theorem of_eq_split_parts {text : Text} {o : Occurrence} (h : of text = .ok (split o)) :
    ∃ left right, text = left ++ o.operator.symbol ++ right ∧ o.before text = left ∧
      o.after text = right ∧
      BindsFrom (if o.operator.laterWins then o.operator.precedence
        else o.operator.precedence + 1) left ∧
      BindsFrom (if o.operator.laterWins then o.operator.precedence + 1
        else o.operator.precedence) right ∧
      ∀ n, BindsFrom n text → n ≤ o.operator.precedence := by
  rcases of_cases h with ⟨e, he, -⟩ | ⟨inner, hi, -⟩ | ⟨found, hf, ⟨o', ho', hl⟩ | ⟨e, he, -⟩⟩
  · cases he
  · cases hi
  · obtain rfl := split.inj ho'
    obtain ⟨xs, ys, rfl, hx, hy⟩ := loosest?_eq_some_iff.1 hl
    obtain ⟨left, right, ht, ho, hleft, hright⟩ := outside_split hf
    rw [Nat.zero_add] at ho
    refine ⟨left, right, ht, ?_, ?_, .of_outside hleft fun x hm => ?_,
      .of_outside hright fun y hm => ?_, ?_⟩
    · rw [before, ht, ho, List.append_assoc, List.take_left]
    · rw [after, ht, ho, Operator.width, ← List.length_append, List.drop_left]
    · split
      · exact precedence_le_of_replaces (hx x hm)
      · next hw => exact precedence_lt_of_replaces (hx x hm) (Bool.not_eq_true _ ▸ hw)
    · split
      · next hw => exact precedence_lt_of_not_replaces (hy y hm) hw
      · exact precedence_le_of_not_replaces (hy y hm)
    · rintro n ⟨found, hfound, hp⟩
      rw [hf, Except.ok.injEq] at hfound
      exact hp o (hfound ▸ List.mem_append_right xs (.head ys))
  · cases he

end Cut

namespace Expr

theorem bindsFrom_of_parseAt {place : Place} {text : Text} {e : Expr}
    (h : parseAt place text = .ok e) : BindsFrom Level.or.bound (Text.trim text) := by
  by_cases hb : Text.isBlank text = true
  · rw [parseAt_blank hb] at h
    cases h
  · cases hc : Cut.of (Text.trim text) with
    | error err => rw [parseAt_error hb hc] at h; cases h
    | ok c =>
      obtain ⟨found, hf⟩ := Cut.outside_of_of_eq_ok hc
      exact ⟨found, hf, fun o _ => Level.le_precedence o.operator⟩

theorem derives_of_parseAt {place : Place} {text : Text} {e : Expr}
    (h : parseAt place text = .ok e) {l : Level} (hl : BindsFrom l.bound (Text.trim text)) :
    Derives l (Text.trim text) e := by
  fun_induction parseAt place text generalizing e l with
  | case1 => cases h
  | case2 => cases h
  | case3 place text hb t e' =>
    rename_i hc
    obtain rfl := Except.ok.inj h
    have htight : l.bound ≤ Level.primary.bound := Level.bound_le_primary l
    rcases Cut.of_eq_leaf hc with hlit | href
    · rcases derives_of_literal? hlit with hd | ⟨hd, op, hp, ho⟩
      · exact hd.loosen htight
      · obtain ⟨found, hf, hle⟩ := hl
        rw [ho, Except.ok.injEq] at hf
        subst hf
        exact hd.loosen (Nat.le_trans (hle _ (.head _)) (Nat.le_of_eq hp))
    · exact (derives_of_reference href).loosen htight
  | case4 place text hb t inner hc =>
    rename_i ih
    have ht := Cut.of_eq_group hc
    obtain ⟨pre, post, hpre, hpost, hi⟩ := Text.exists_trim inner
    have hd := ih h (bindsFrom_of_parseAt h)
    have hg : Derives .primary ('(' :: (pre ++ Text.trim inner ++ post) ++ [')']) e :=
      .group hpre hd hpost
    rw [← hi, ← ht] at hg
    exact hg.loosen (Level.bound_le_primary l)
  | case5 place text hb t o hc ho hn =>
    rename_i ih
    obtain ⟨left, right, ht, hbefore, hafter, -, hright, hle⟩ := Cut.of_eq_split_parts hc
    have htight := hle _ hl
    rw [ho] at ht hright htight
    rw [hbefore] at hn
    rw [hafter] at ih h
    have htrim : Text.Trimmed (left ++ Operator.not.symbol ++ right) := ht ▸ Text.trimmed_trim text
    cases hx : parseAt (.operand .not t) right with
    | error err => rw [hx] at h; cases h
    | ok x =>
      rw [hx] at h
      obtain rfl := Except.ok.inj h
      rw [show Text.trim text = _ from ht]
      exact (derives_not htrim hn (ih hx (l := .unary) hright.trim)).loosen htight
  | case6 => cases h
  | case7 place text hb t o hc op ho ihl =>
    rename_i ihr
    obtain ⟨left, right, ht, hbefore, hafter, hleft, hright, hle⟩ := Cut.of_eq_split_parts hc
    have htight := hle _ hl
    rw [ho] at ht hleft hright htight
    rw [hbefore] at ihl h
    rw [hafter] at ihr h
    have htrim : Text.Trimmed (left ++ op.symbol ++ right) := ht ▸ Text.trimmed_trim text
    cases hx : parseAt (.operand (.binary op) t) left with
    | error err => rw [hx] at h; cases h
    | ok x =>
      cases hy : parseAt (.operand (.binary op) t) right with
      | error err => rw [hx, hy] at h; cases h
      | ok y =>
        rw [hx, hy] at h
        obtain rfl := Except.ok.inj h
        rw [show Text.trim text = _ from ht]
        rcases Level.exists_level op with rfl | ⟨m, hm⟩
        · exact (derives_power htrim (ihl hx (l := .unary) hleft.trim)
            (ihr hy (l := .power) hright.trim)).loosen htight
        · obtain ⟨m', hn⟩ := Level.exists_next_of_mem hm
          obtain ⟨hp, hg⟩ := Level.bound_of_mem hm
          have hw : (Operator.binary op).laterWins = true := by rw [Operator.laterWins, hg]; rfl
          rw [if_pos hw] at hleft hright
          have hp' : (Operator.binary op).precedence = m.bound := hp
          rw [hp'] at hleft hright htight
          exact (derives_left htrim hm hn (ihl hx hleft.trim)
            (ihr hy (hright.next hn).trim)).loosen htight

end Expr

namespace Expr

variable {raw : Text} {e : Expr}

theorem sentence_of_ofText (h : ofText raw = .ok e) : Sentence (Text.spellNot raw) e := by
  obtain ⟨pre, post, hpre, hpost, ht⟩ := Text.exists_trim (Text.spellNot raw)
  exact ⟨pre, _, post, ht, hpre, hpost, derives_of_parseAt h (bindsFrom_of_parseAt h)⟩

theorem ofText_of_sentence (h : Sentence (Text.spellNot raw) e) : ofText raw = .ok e := by
  obtain ⟨pre, t, post, ht, hpre, hpost, hd⟩ := h
  rw [ofText, ht, parseAt_padded hpre hpost hd.operand.trimmed hd.operand.ne_nil]
  exact parseAt_of_derives hd .whole

/-- A text is read as a tree if and only if the grammar derives the tree from it. -/
theorem ofText_eq_ok_iff_sentence (raw : Text) (e : Expr) :
    ofText raw = .ok e ↔ Sentence (Text.spellNot raw) e := by
  constructor
  · intro h
    exact sentence_of_ofText h
  · intro h
    exact ofText_of_sentence h

end Expr

end DialogGate
