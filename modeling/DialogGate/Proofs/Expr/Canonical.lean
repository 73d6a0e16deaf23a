import DialogGate.Expr.Printer
import DialogGate.Proofs.Expr.Literals
import DialogGate.Proofs.Expr.Number
import DialogGate.Proofs.Text.Keyword

/-! # The canonical form is read back

The canonical form of a tree is read as that tree if all its numbers are finite and every variable
has a whole number without a sign as its index (`Printable`, `ofText_text`); the canonical form of
any other tree cannot be read at all (`printable_of_ofText`).

The canonical form of every tree is an operand in which nothing but negations stands outside
parentheses (`text_operand`), so it is read along the tree. For a printable tree the grammar derives
it (`derives_text`); conversely, a number that is not finite is no literal, and a variable whose
index is not written in digits alone is none.
-/

namespace DialogGate

open Occurrence Grammar

/-- Finite, and a multiple of one. -/
def Binary64.IsWhole (x : Binary64) : Prop :=
  x.isFinite = true ∧ one ∣ units x.magnitude

/-- The trees whose canonical form stands for them. -/
structure Expr.Printable (e : Expr) : Prop where
  numbers : ∀ x ∈ e.numbers, x.isFinite = true
  indices : ∀ i ∈ e.indices, ∃ x, i = .number x ∧ x.negative = false ∧ x.IsWhole

/-! ## The text of a number -/

namespace Binary64

variable {x : Binary64}

theorem ofMagnitude_self (hx : x.isFinite = true) : ofMagnitude x.negative x.magnitude = x := by
  rw [isFinite, decide_eq_true_eq] at hx
  rw [ofMagnitude, dif_pos (Nat.le_of_lt hx)]

theorem text_of_isFinite (hx : x.isFinite = true) : x.text =
    if x.negative then '-' :: Layout.plain.ofMagnitude x.magnitude
    else Layout.plain.ofMagnitude x.magnitude := by
  rw [isFinite, decide_eq_true_eq] at hx
  rw [text, Layout.text, if_neg (by omega), if_neg (by omega)]

/-- A finite number is written as a literal that denotes it, behind a minus if it is negative. -/
theorem exists_literal (hx : x.isFinite = true) : ∃ t w f, Unsigned t w f ∧
    x.text = (if x.negative then '-' :: t else t) ∧ literal x.negative w f = x ∧
    (x.IsWhole → t = w ∧ f = []) := by
  have hi : x.magnitude < infinite := by rwa [isFinite, decide_eq_true_eq] at hx
  obtain ⟨w, f, hu, hl, hw⟩ := exists_unsigned hi
  refine ⟨_, w, f, hu, text_of_isFinite hx, ?_, fun h => hw h.2⟩
  rw [hl, ofMagnitude_self hx]

/-- Digits alone denote whole numbers. -/
theorem isWhole_literal {w : Text} (h : literal false w [] = x) (hx : x.isFinite = true) :
    x.IsWhole := by
  have hx' := hx
  rw [literal] at h
  have hl : (-([] : Text).length : Int) = 0 := rfl
  rw [hl, ofDecimal_whole] at h
  subst h
  rw [isFinite, decide_eq_true_eq] at hx'
  exact ⟨hx, dvd_units_nearest hx'⟩

theorem text_of_not_isFinite (hx : ¬x.isFinite = true) : x.text = "NaN".toList ∨
    x.text = (if x.negative then "-inf".toList else "inf".toList) := by
  rw [isFinite, decide_eq_true_eq] at hx
  rw [text, Layout.text]
  by_cases hm : infinite < x.magnitude
  · rw [if_pos hm]
    exact .inl rfl
  · rw [if_neg hm, if_pos (by omega)]
    cases x.negative
    · exact .inr rfl
    · exact .inr rfl

end Binary64

/-! ## Canonical forms as operands -/

/-- Letters, digits and points, and perhaps a sign before them. -/
theorem Binary64.exists_text (x : Binary64) : ∃ t, t ≠ [] ∧
    (∀ c ∈ t, isInert c = true ∧ Text.isSpace c = false) ∧
    (x.text = t ∨ x.negative = true ∧ x.text = '-' :: t) := by
  by_cases hx : x.isFinite = true
  · obtain ⟨t, w, f, hu, ht, -⟩ := exists_literal hx
    refine ⟨t, hu.ne_nil, hu.inert, ?_⟩
    rw [ht]
    cases hn : x.negative with
    | true => exact .inr ⟨rfl, rfl⟩
    | false => exact .inl rfl
  · rcases text_of_not_isFinite hx with ht | ht
    · exact ⟨_, by decide, inert_of_all (by decide), .inl ht⟩
    · refine ⟨"inf".toList, by decide, inert_of_all (by decide), ?_⟩
      rw [ht]
      cases hn : x.negative with
      | true => exact .inr ⟨rfl, rfl⟩
      | false => exact .inl rfl

/-- A text between two others that the scan passes over. -/
theorem Operand.bracketed {p : Nat} {a pre post : Text} (ha : Operand p a) (hpre : pre ≠ [])
    (hpost : post ≠ []) (h : ∀ c ∈ pre ++ post, isInert c = true ∧ Text.isSpace c = false) :
    Operand p (pre ++ a ++ post) where
  ne_nil := by simp [hpre]
  front c hc := by
    rw [List.append_assoc, List.head?_append_of_ne_nil _ hpre] at hc
    have hm := h c (List.mem_append_left _ (List.mem_of_head? hc))
    exact ⟨hm.2, ofPair?_inert_right hm.1⟩
  back c hc := by
    rw [List.getLast?_append_of_ne_nil _ hpost] at hc
    have hm := h c (List.mem_append_right _ (List.mem_of_getLast? hc))
    exact ⟨hm.2, ofPair?_inert_left hm.1⟩
  balanced := by
    have hplain (t : Text) (ht : t ⊆ pre ++ post) : Balanced t :=
      .of_plain fun c hc => isPlain_of_isInert (h c (ht hc)).1
    exact ((hplain pre (List.subset_append_left _ _)).append ha.balanced).append
      (hplain post (List.subset_append_right _ _))
  operators := by
    obtain ⟨found, hf, hp⟩ := ha.operators
    refine ⟨found.map (shift (0 + pre.length)), ?_, fun o ho => ?_⟩
    · rw [outside_append_inert _ _ fun c hc => (h c (List.mem_append_right _ hc)).1,
        outside_inert_append _ _ fun c hc => (h c (List.mem_append_left _ hc)).1,
        outside_eq_moved, hf]
      rfl
    · obtain ⟨o', ho', rfl⟩ := List.mem_map.1 ho
      exact hp o' ho'

namespace Expr

theorem enclosed_binary (op : BinaryOp) (left right : Expr) :
    (binary op left right).text =
      '(' :: ([] ++ (left.text ++ [' '] ++ op.symbol ++ [' '] ++ right.text) ++ []) ++ [')'] := by
  simp [text, enclosed]

/-- Every operator binds looser than a negation. -/
theorem fits_unary (op : BinaryOp) : Fits op 14 14 := by
  cases op <;> decide

theorem operand_binary {a b : Text} (op : BinaryOp) (ha : Operand 14 a) (hb : Operand 14 b) :
    Operand 0 (a ++ [' '] ++ op.symbol ++ [' '] ++ b) :=
  ha.binary hb (by decide) (by decide) (.binary op) (Nat.zero_le _) (Nat.zero_le _) (Nat.zero_le _)

theorem text_operand (e : Expr) : Operand 14 e.text := by
  induction e with
  | boolean b => exact boolean_operand 14 b
  | number x =>
    obtain ⟨t, hne, ht, hx | ⟨hn, hx⟩⟩ := x.exists_text
    · rw [text, hx]
      split
      · exact .enclosed (.of_plain fun c hc => isPlain_of_isInert (ht c hc).1)
      · exact .of_inert hne ht
    · rw [text, if_pos hn, hx]
      refine .enclosed (.of_plain fun c hc => ?_)
      rcases List.mem_cons.1 hc with rfl | hc
      · decide
      · exact isPlain_of_isInert (ht c hc).1
  | lookup index ih => exact ih.bracketed (by decide) (by decide) (inert_of_all (by decide))
  | not operand ih =>
    have hpre : Text.isBlank [] = true := rfl
    exact ih.not hpre
  | binary op left right ihl ihr =>
    rw [enclosed_binary, List.nil_append, List.append_nil]
    exact .enclosed (operand_binary op ihl ihr).balanced

end Expr

/-! ## What is printable is derived -/

namespace Expr

variable {e a b : Expr} {op : BinaryOp}

theorem Printable.left (h : (binary op a b).Printable) : a.Printable :=
  ⟨fun x hx => h.numbers x (List.mem_append_left _ hx),
    fun i hi => h.indices i (List.mem_append_left _ hi)⟩

theorem Printable.right (h : (binary op a b).Printable) : b.Printable :=
  ⟨fun x hx => h.numbers x (List.mem_append_right _ hx),
    fun i hi => h.indices i (List.mem_append_right _ hi)⟩

theorem Printable.operand (h : (not e).Printable) : e.Printable := ⟨h.numbers, h.indices⟩

theorem derives_binary {a b : Text} {x y : Expr} (op : BinaryOp) (ha : Derives .unary a x)
    (hb : Derives .unary b y) :
    Derives .or (a ++ [' '] ++ op.symbol ++ [' '] ++ b) (.binary op x y) :=
  .binary op ha (by decide) (by decide) hb

theorem derives_text (h : e.Printable) : Derives .unary e.text e := by
  induction e with
  | boolean b => exact .tighter rfl (.boolean b)
  | number x =>
    obtain ⟨t, w, f, hu, ht, hx, -⟩ := Binary64.exists_literal (h.numbers x (.head _))
    rw [text, ht]
    cases hn : x.negative with
    | false =>
      rw [hn] at hx
      rw [if_neg (by decide), if_neg (by decide), ← hx]
      exact .tighter rfl (.number hu)
    | true =>
      rw [hn] at hx
      rw [if_pos rfl, if_pos rfl, ← hx]
      have hs : Derives .sum ('-' :: t) (.number (literal true w f)) := .signed (.inr rfl) hu
      have hg : Derives .primary ('(' :: ([] ++ ('-' :: t) ++ []) ++ [')']) _ :=
        .group rfl (hs.loosen (by decide)) rfl
      rw [List.nil_append, List.append_nil] at hg
      exact .tighter rfl hg
  | lookup index ih =>
    obtain ⟨x, rfl, hn, hw⟩ := h.indices index (.head _)
    obtain ⟨t, w, f, hu, ht, hx, hf⟩ := Binary64.exists_literal hw.1
    obtain ⟨rfl, rfl⟩ := hf hw
    have hd : Text.IsDigits t := by
      have := hu.isDigits
      rwa [List.append_nil] at this
    rw [hn, if_neg (by decide)] at ht
    have hl : Derives .primary ('\\' :: 'v' :: '[' :: t ++ [']']) _ :=
      .lookup (.inl rfl) hu.ne_nil hd
    rw [← hn, hx] at hl
    rw [text, text, hn, if_neg (by decide), ht]
    exact .tighter rfl hl
  | not operand ih =>
    have hpre : Text.isBlank [] = true := rfl
    exact .not hpre (ih h.operand)
  | binary op left right ihl ihr =>
    rw [enclosed_binary]
    exact .tighter rfl (.group rfl (derives_binary op (ihl h.left) (ihr h.right)) rfl)

end Expr

/-! ## What is read is printable -/

namespace Grammar

/-- The text begins as a literal without a sign, a negation or a parenthesis, or it is a variable. -/
def UnaryFront (t : Text) : Prop :=
  ∃ c rest, t = c :: rest ∧ (c ∈ ['!', 't', 'f', '.', '('] ∨ Text.isDigit c = true ∨
    c = '\\' ∧ ∃ v digits, rest = v :: '[' :: digits ++ [']'] ∧ digits ≠ [] ∧ Text.IsDigits digits)

theorem Derives.front {l : Level} {t : Text} {e : Expr} (h : Derives l t e)
    (hl : l = .unary ∨ l = .primary) : UnaryFront t := by
  induction h with
  | tighter hn _ ih =>
    refine ih (.inr ?_)
    rcases hl with rfl | rfl
    · exact (Option.some.inj hn).symm
    · cases hn
  | left hop =>
    rcases hl with rfl | rfl
    · cases hop
    · cases hop
  | power | signed =>
    rcases hl with hl | hl
    · cases hl
    · cases hl
  | not => exact ⟨_, _, rfl, .inl (by decide)⟩
  | boolean b =>
    cases b with
    | true => exact ⟨'t', _, rfl, .inl (by decide)⟩
    | false => exact ⟨'f', _, rfl, .inl (by decide)⟩
  | number hu =>
    obtain ⟨c, rest, rfl⟩ := List.exists_cons_of_ne_nil hu.ne_nil
    rcases hu.written.head c rfl with hc | rfl
    · exact ⟨c, rest, rfl, .inr (.inl hc)⟩
    · exact ⟨'.', rest, rfl, .inl (by decide)⟩
  | lookup _ hne hd => exact ⟨_, _, rfl, .inr (.inr ⟨rfl, _, _, rfl, hne, hd⟩)⟩
  | group => exact ⟨_, _, rfl, .inl (by decide)⟩

end Grammar

namespace Expr

/-- An operand in which nothing but negations stands outside parentheses is read as the grammar
derives it without an operator around it. -/
theorem front_of_parseAt {place : Place} {t : Text} {e : Expr} (ht : Operand 14 t)
    (h : parseAt place t = .ok e) : UnaryFront t := by
  have hb : BindsFrom Level.unary.bound (Text.trim t) := by
    rw [Text.trim_eq_self ht.trimmed]
    exact ht.operators
  have hd := derives_of_parseAt h hb
  rw [Text.trim_eq_self ht.trimmed] at hd
  exact hd.front (.inl rfl)

/-- A sign before something that is no literal is read as an operator, without its left side. -/
theorem parseAt_sign {t : Text} (hne : t ≠ [])
    (ht : ∀ c ∈ t, isInert c = true ∧ Text.isSpace c = false)
    (hl : Cut.literal? ('-' :: t) = none) (place : Place) (e : Expr) :
    parseAt place ('-' :: t) ≠ .ok e := by
  intro h
  have hop : Operand 11 ('-' :: t) := .signed (.inr rfl) hne ht
  obtain ⟨op, hn, -, ho⟩ := outside_signed (.inr rfl) fun c hc => (ht c hc).1
  have hc : Cut.of ('-' :: t) = .ok (.split ⟨op, 0⟩) := by
    have hg : Cut.group? ('-' :: t) = none := rfl
    have hloosest : loosest? [⟨op, 0⟩] = some ⟨op, 0⟩ := rfl
    rw [Cut.of, hl]
    simp only [hg, ho, hloosest]
  rw [← Text.trim_eq_self hop.trimmed] at hc
  cases op with
  | not => exact hn rfl
  | binary op =>
    have hblank : Text.isBlank (before ⟨.binary op, 0⟩ (Text.trim ('-' :: t))) = true := rfl
    rw [parseAt_binary (hop.trimmed.not_isBlank hop.ne_nil) hc, parseAt_blank hblank] at h
    cases h

/-- The names of the numbers that are not finite cannot be read. -/
theorem parseAt_name {t : Text} (ht : t = "NaN".toList ∨ t = "inf".toList) (place : Place)
    (e : Expr) : parseAt place t ≠ .ok e := by
  intro h
  have hop : Operand 14 t := by
    rcases ht with rfl | rfl
    · exact .of_inert (by decide) (inert_of_all (by decide))
    · exact .of_inert (by decide) (inert_of_all (by decide))
  obtain ⟨c, rest, he, hc⟩ := front_of_parseAt hop h
  have hhead : c = 'N' ∨ c = 'i' := by
    rcases ht with rfl | rfl
    · exact .inl (List.cons.inj he).1.symm
    · exact .inr (List.cons.inj he).1.symm
  rcases hhead with rfl | rfl <;> rcases hc with hc | hc | ⟨hc, -⟩ <;> exact absurd hc (by decide)

theorem isFinite_of_parseAt {place : Place} {x : Binary64} {e : Expr}
    (h : parseAt place (number x).text = .ok e) : x.isFinite = true := by
  by_contra hx
  rw [text] at h
  have henclosed (t : Text) : enclosed t = '(' :: ([] ++ t ++ []) ++ [')'] := by
    rw [List.nil_append, List.append_nil]
    rfl
  have hnan : Operand 14 "NaN".toList :=
    .of_inert (by decide) (inert_of_all (by decide))
  have hinf : Operand 11 "-inf".toList :=
    .signed (.inr rfl) (by decide) (inert_of_all (by decide))
  rcases Binary64.text_of_not_isFinite hx with ht | ht
  · rw [ht] at h
    cases hn : x.negative with
    | false =>
      rw [hn, if_neg (by decide)] at h
      exact parseAt_name (.inl rfl) place e h
    | true =>
      rw [hn, if_pos rfl, henclosed, parseAt_group_text hnan rfl rfl] at h
      exact parseAt_name (.inl rfl) .whole e h
  · rw [ht] at h
    cases hn : x.negative with
    | false =>
      rw [hn, if_neg (by decide), if_neg (by decide)] at h
      exact parseAt_name (.inr rfl) place e h
    | true =>
      rw [hn, if_pos rfl, if_pos rfl, henclosed, parseAt_group_text hinf rfl rfl] at h
      exact parseAt_sign (by decide) (inert_of_all (by decide)) (by decide) .whole e h

/-- Only a whole number without a sign is written in digits alone. -/
theorem number_of_isDigits {i : Expr} (h : Text.IsDigits i.text) :
    ∃ x, i = .number x ∧ x.negative = false ∧ x.IsWhole := by
  have hfirst : ∀ c rest, i.text = c :: rest → '0' ≤ c ∧ c ≤ '9' := by
    intro c rest he
    exact h c (he ▸ .head rest)
  cases i with
  | boolean b =>
    cases b with
    | true => exact absurd (hfirst 't' _ rfl) (by decide)
    | false => exact absurd (hfirst 'f' _ rfl) (by decide)
  | lookup index => exact absurd (hfirst '\\' _ rfl) (by decide)
  | not operand => exact absurd (hfirst '!' _ rfl) (by decide)
  | binary op left right => exact absurd (hfirst '(' _ rfl) (by decide)
  | number x =>
    refine ⟨x, rfl, ?_⟩
    rw [text] at h hfirst
    cases hn : x.negative with
    | true =>
      rw [hn, if_pos rfl] at hfirst
      exact absurd (hfirst '(' _ rfl) (by decide)
    | false =>
      rw [hn, if_neg (by decide)] at h hfirst
      refine ⟨rfl, ?_⟩
      by_cases hx : x.isFinite = true
      · obtain ⟨t, w, f, hu, ht, hl, -⟩ := Binary64.exists_literal hx
        rw [hn, if_neg (by decide)] at ht
        rw [ht] at h
        rw [hn] at hl
        have hpoint : '.' ∉ t := fun hc => absurd (h '.' hc) (by decide)
        cases hu with
        | whole => exact Binary64.isWhole_literal hl hx
        | point => exact absurd (List.mem_append_right _ (.head _)) hpoint
        | fraction => exact absurd (.head _) hpoint
      · rcases Binary64.text_of_not_isFinite hx with ht | ht
        · rw [ht] at hfirst
          exact absurd (hfirst 'N' _ rfl) (by decide)
        · rw [ht, hn, if_neg (by decide)] at hfirst
          exact absurd (hfirst 'i' _ rfl) (by decide)

theorem printable_of_parseAt {place : Place} {e e' : Expr} (h : parseAt place e.text = .ok e') :
    e.Printable := by
  induction e generalizing place e' with
  | boolean b => exact ⟨fun x hx => (List.not_mem_nil hx).elim, fun i hi => (List.not_mem_nil hi).elim⟩
  | number x =>
    refine ⟨fun y hy => ?_, fun i hi => (List.not_mem_nil hi).elim⟩
    rw [List.mem_singleton.1 hy]
    exact isFinite_of_parseAt h
  | lookup index ih =>
    obtain ⟨c, rest, he, hc⟩ := front_of_parseAt (text_operand (lookup index)) h
    have he : '\\' :: 'v' :: '[' :: (index.text ++ [']']) = c :: rest := he
    obtain ⟨rfl, rfl⟩ := List.cons.inj he
    rcases hc with hc | hc | ⟨-, v, digits, hr, -, hd⟩
    · exact absurd hc (by decide)
    · exact absurd hc (by decide)
    · have ht : index.text = digits :=
        List.append_cancel_right (List.cons.inj (List.cons.inj hr).2).2
      obtain ⟨x, rfl, hn, hw⟩ := number_of_isDigits (ht ▸ hd)
      refine ⟨fun y hy => ?_, fun i hi => ⟨x, List.mem_singleton.1 hi, hn, hw⟩⟩
      rw [List.mem_singleton.1 hy]
      exact hw.1
  | not operand ih =>
    have hpre : Text.isBlank [] = true := rfl
    have hn := parseAt_not_text (text_operand operand) hpre place
    rw [List.nil_append] at hn
    rw [text, hn] at h
    cases hx : parseAt .whole operand.text with
    | error err => rw [hx] at h; cases h
    | ok x => exact ⟨(ih hx).numbers, (ih hx).indices⟩
  | binary op left right ihl ihr =>
    have hl := text_operand left
    have hr := text_operand right
    rw [enclosed_binary, parseAt_group_text (operand_binary op hl hr) rfl rfl,
      parseAt_binary_text hl hr (by decide) (by decide) (fits_unary op)] at h
    cases hx : parseAt .whole left.text with
    | error err => rw [hx] at h; cases h
    | ok x =>
      cases hy : parseAt .whole right.text with
      | error err => rw [hx, hy] at h; cases h
      | ok y =>
        refine ⟨fun z hz => ?_, fun i hi => ?_⟩
        · exact (List.mem_append.1 hz).elim ((ihl hx).numbers z) ((ihr hy).numbers z)
        · exact (List.mem_append.1 hi).elim ((ihl hx).indices i) ((ihr hy).indices i)

end Expr

/-! ## The keyword -/

theorem Binary64.not_mem_text (x : Binary64) : 'o' ∉ x.text := by
  have hsigned {t : Text} (ht : 'o' ∉ t) : 'o' ∉ if x.negative then '-' :: t else t := by
    split
    · exact List.not_mem_cons_of_ne_of_not_mem (by decide) ht
    · exact ht
  by_cases hx : x.isFinite = true
  · obtain ⟨t, w, f, hu, ht, -⟩ := exists_literal hx
    rw [ht]
    refine hsigned fun hm => ?_
    rcases hu.mem hm with hd | hd
    · exact absurd hd (by decide)
    · exact absurd hd (by decide)
  · rcases text_of_not_isFinite hx with ht | ht
    · rw [ht]
      decide
    · rw [ht]
      exact hsigned (t := "inf".toList) (by decide)

namespace Expr

theorem not_mem_enclosed {t : Text} (h : 'o' ∉ t) : 'o' ∉ enclosed t := by
  intro hm
  rcases List.mem_append.1 hm with hm | hm
  · exact h ((List.mem_cons.1 hm).resolve_left (by decide))
  · exact absurd hm (by decide)

theorem not_mem_text (e : Expr) : 'o' ∉ e.text := by
  induction e with
  | boolean b => cases b <;> decide
  | number x =>
    rw [text]
    split
    · exact not_mem_enclosed x.not_mem_text
    · exact x.not_mem_text
  | lookup index ih =>
    intro hm
    rcases List.mem_append.1 hm with hm | hm
    · rcases List.mem_append.1 hm with hm | hm
      · exact absurd hm (by decide)
      · exact ih hm
    · exact absurd hm (by decide)
  | not operand ih =>
    intro hm
    exact ih ((List.mem_cons.1 hm).resolve_left (by decide))
  | binary op left right ihl ihr =>
    have hop : 'o' ∉ ' ' :: op.symbol := by cases op <;> decide
    refine not_mem_enclosed fun hm => ?_
    rcases List.mem_append.1 hm with hm | hm
    · exact (List.mem_append.1 hm).elim ihl hop
    · exact ihr ((List.mem_cons.1 hm).resolve_left (by decide))

/-! ## Round trips -/

theorem spellNot_text (e : Expr) : Text.spellNot e.text = e.text :=
  Text.spellNotAfter_eq_self e.not_mem_text

theorem ofText_text {e : Expr} (h : e.Printable) : ofText e.text = .ok e := by
  rw [ofText, spellNot_text]
  exact parseAt_of_derives (derives_text h) .whole

theorem printable_of_ofText {e e' : Expr} (h : ofText e.text = .ok e') : e.Printable := by
  rw [ofText, spellNot_text] at h
  exact printable_of_parseAt h

/-- A tree that is read from text is printable unless one of its numbers is infinite. -/
theorem printable_of_ofText_iff {raw : Text} {e : Expr} (h : ofText raw = .ok e) :
    e.Printable ↔ ∀ x ∈ e.numbers, x.magnitude ≠ Binary64.infinite := by
  constructor
  · intro hp x hx
    have hlt := hp.numbers x hx
    rw [Binary64.isFinite, decide_eq_true_eq] at hlt
    exact Nat.ne_of_lt hlt
  · intro hne
    have hfin : ∀ x ∈ e.numbers, x.isFinite = true := by
      intro x hx
      obtain ⟨negative, w, f, -, he⟩ := numbers_of_ofText h x hx
      have hle : x.magnitude ≤ Binary64.infinite := he ▸ (Binary64.ofDecimal_defined ..).2
      rw [Binary64.isFinite, decide_eq_true_eq]
      exact Nat.lt_of_le_of_ne hle (hne x hx)
    refine ⟨hfin, fun i hi => ?_⟩
    obtain ⟨digits, -, -, rfl⟩ := indices_of_ofText h i hi
    exact ⟨_, rfl, (Binary64.ofDecimal_defined ..).1,
      Binary64.isWhole_literal rfl (hfin _ (mem_numbers_of_mem_indices hi))⟩

/-- The canonical form of a printable tree is read as that tree, and that of any other tree cannot
be read; among the trees that are read from text, those are printable that have no infinite
number. -/
theorem ofText_text_exact :
    (∀ e : Expr, (ofText e.text = .ok e ↔ e.Printable) ∧
      (¬e.Printable → ∃ error, ofText e.text = .error error)) ∧
    ∀ raw e, ofText raw = .ok e →
      (ofText e.text = .ok e ↔ ∀ x ∈ e.numbers, x.magnitude ≠ Binary64.infinite) := by
  refine ⟨fun e => ⟨⟨printable_of_ofText, ofText_text⟩, fun hp => ?_⟩, fun raw e h => ?_⟩
  · cases hr : ofText e.text with
    | error error => exact ⟨error, rfl⟩
    | ok e' => exact absurd (printable_of_ofText hr) hp
  · rw [← printable_of_ofText_iff h]
    exact ⟨printable_of_ofText, ofText_text⟩

end Expr

end DialogGate
