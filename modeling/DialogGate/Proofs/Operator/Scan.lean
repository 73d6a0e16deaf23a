import DialogGate.Proofs.Operator.Closing
import DialogGate.Proofs.Text.Trim

/-! # Scanning a text in parts

What `Occurrence.outside` finds in a text that is put together from parts.

* `scan_induction`: the four things that can stand at the front of a text, as an induction.
* `outside_add`: the offset at which a text starts only moves what is found.
* `outside_append`: nothing is found across a seam at which no spelling of two characters forms.
* `outside_split`: the text on either side of an operator that was found holds exactly the
  operators found before and behind it.
* `outside_append_inert`, `outside_inert_append`: text without parentheses and operators around
  a text only moves what is found; such is white space (`outside_trim`).
-/

namespace DialogGate

namespace Operator

theorem atFront?_eq_none_of_append {a b : Text} (h : atFront? (a ++ b) = none) :
    atFront? a = none := by
  match a, b with
  | [], _ => rfl
  | [c], [] => exact h
  | [c], d :: b =>
    have h : (ofPair? c d).or (ofChar? c) = none := h
    exact (Option.or_eq_none_iff.1 h).2
  | c :: d :: a, b => exact h

/-- An operator stays at the front if text is taken away behind its spelling. -/
theorem atFront?_symbol_append {op : Operator} {a b : Text}
    (h : atFront? (op.symbol ++ a ++ b) = some op) : atFront? (op.symbol ++ a) = some op := by
  cases a with
  | nil => rw [List.append_nil, atFront?_symbol]
  | cons d a =>
    have hne : op.symbol ≠ [] := List.ne_nil_of_length_pos op.width_pos
    obtain ⟨c, s, hs⟩ := List.exists_cons_of_ne_nil hne
    rw [hs] at h ⊢
    cases s <;> exact h

theorem ofPair?_eq_none_left {c : Char} (h : c ∉ ['|', '&', '=', '!', '<', '>', '*']) (d : Char) :
    ofPair? c d = none := by
  cases ho : ofPair? c d with
  | none => rfl
  | some op =>
    have hs := ofPair?_eq_some ho
    rcases op with _ | op
    · cases hs
    · cases op <;> cases hs <;> exact absurd h (by decide)

theorem ofPair?_eq_none_right {d : Char} (h : d ∉ ['|', '&', '=', '*']) (c : Char) :
    ofPair? c d = none := by
  cases ho : ofPair? c d with
  | none => rfl
  | some op =>
    have hs := ofPair?_eq_some ho
    rcases op with _ | op
    · cases hs
    · cases op <;> cases hs <;> exact absurd h (by decide)

/-- No character that begins an operator is a parenthesis. -/
theorem isPlain_of_atFront? {c : Char} {rest : Text} {op : Operator}
    (h : atFront? (c :: rest) = some op) : isPlain c = true := by
  obtain ⟨tail, ht⟩ := symbol_prefix_of_atFront? h
  have hc : op.symbol.head? = some c := by
    obtain ⟨d, s, hs⟩ := List.exists_cons_of_ne_nil (List.ne_nil_of_length_pos op.width_pos)
    rw [hs, List.cons_append] at ht
    rw [hs, (List.cons.inj ht).1]
    rfl
  rcases op with _ | op
  · obtain rfl := Option.some.inj hc
    rfl
  · cases op <;> obtain rfl := Option.some.inj hc <;> rfl

theorem ne_paren_of_atFront? {c : Char} {rest : Text} {op : Operator}
    (h : atFront? (c :: rest) = some op) : c ≠ '(' := by
  rintro rfl
  exact absurd (isPlain_of_atFront? h) (by decide)

end Operator

theorem symbol_plain (op : Operator) : ∀ c ∈ op.symbol, isPlain c = true := by
  rw [← List.all_eq_true]
  rcases op with _ | op
  · decide
  · cases op <;> decide

/-- Neither a parenthesis nor a part of an operator. -/
def isInert (c : Char) : Bool :=
  !(['(', ')', '|', '&', '=', '!', '<', '>', '+', '-', '*', '/', '%'].contains c)

theorem isInert_eq_false_iff {c : Char} : isInert c = false ↔
    c ∈ ['(', ')', '|', '&', '=', '!', '<', '>', '+', '-', '*', '/', '%'] := by
  rw [isInert, Bool.not_eq_false', List.contains_iff_mem]

section
variable {c : Char} (h : isInert c = true)
include h

theorem isInert_not_mem {l : List Char} (hl : l.all (!isInert ·) = true) : c ∉ l := by
  intro hm
  have hc := List.all_eq_true.1 hl c hm
  rw [h] at hc
  cases hc

theorem isPlain_of_isInert : isPlain c = true := by
  have hc := isInert_not_mem h (l := ['(', ')']) (by decide)
  simpa [isPlain] using hc

theorem ofPair?_inert_left (d : Char) : Operator.ofPair? c d = none :=
  Operator.ofPair?_eq_none_left (isInert_not_mem h (by decide)) d

theorem ofPair?_inert_right (d : Char) : Operator.ofPair? d c = none :=
  Operator.ofPair?_eq_none_right (isInert_not_mem h (by decide)) d

theorem ofChar?_inert : Operator.ofChar? c = none := by
  cases ho : Operator.ofChar? c with
  | none => rfl
  | some op =>
    have hs := Operator.ofChar?_eq_some ho
    rcases op with _ | op
    · cases hs; exact absurd h (by decide)
    · cases op <;> cases hs <;> exact absurd h (by decide)

end

/-- A class of characters that holds none of the thirteen is inert. -/
theorem isInert_of_class {p : Char → Bool} (hp : ['(', ')', '|', '&', '=', '!', '<', '>', '+', '-',
    '*', '/', '%'].all (!p ·) = true) {c : Char} (h : p c = true) : isInert c = true := by
  cases hc : isInert c with
  | true => rfl
  | false =>
    have hn := List.all_eq_true.1 hp c (isInert_eq_false_iff.1 hc)
    rw [h] at hn
    cases hn

theorem isInert_of_isSpace {c : Char} : Text.isSpace c = true → isInert c = true :=
  isInert_of_class (by decide)

theorem inert_of_isBlank {text : Text} (h : Text.isBlank text = true) :
    ∀ c ∈ text, isInert c = true :=
  fun c hc => isInert_of_isSpace (Text.isBlank_iff.1 h c hc)

/-- No spelling of two characters lies across the seam between two texts. -/
def Apart (a b : Text) : Prop :=
  ∀ c d, a.getLast? = some c → b.head? = some d → Operator.ofPair? c d = none

theorem Apart.of_suffix {a b s : Text} (h : Apart a b) (hs : s <:+ a) : Apart s b := by
  intro c d hc hd
  refine h c d ?_ hd
  obtain ⟨pre, rfl⟩ := hs
  rw [List.getLast?_append, hc]
  rfl

theorem Apart.of_inert_left {a b : Text} (h : ∀ c ∈ a, isInert c = true) : Apart a b :=
  fun c d hc _ => ofPair?_inert_left (h c (List.mem_of_getLast? hc)) d

theorem Apart.of_inert_right {a b : Text} (h : ∀ c ∈ b, isInert c = true) : Apart a b :=
  fun c d _ hd => ofPair?_inert_right (h d (List.mem_of_head? hd)) c

theorem Apart.atFront?_append {a b : Text} (h : Apart a b) (hne : a ≠ []) :
    Operator.atFront? (a ++ b) = Operator.atFront? a := by
  match a, b with
  | [], _ => exact absurd rfl hne
  | [c], [] => rfl
  | [c], d :: b =>
    show (Operator.ofPair? c d).or (Operator.ofChar? c) = Operator.ofChar? c
    rw [h c d rfl rfl, Option.none_or]
  | c :: d :: a, b => rfl

namespace Occurrence

/-! ## One step -/

theorem outside_nil (offset : Nat) : outside offset [] = .ok [] := by rw [outside]

theorem outside_group {rest : Text} {close : Nat} (h : closing? ('(' :: rest) = some close)
    (offset : Nat) :
    outside offset ('(' :: rest) = outside (offset + close + 1) (rest.drop close) := by
  rw [outside, h]

theorem outside_unclosed {rest : Text} (h : closing? ('(' :: rest) = none) (offset : Nat) :
    outside offset ('(' :: rest) = .error offset := by
  rw [outside, h]

theorem outside_operator {text : Text} {op : Operator} (h : Operator.atFront? text = some op)
    (offset : Nat) :
    outside offset text =
      (outside (offset + op.width) (text.drop op.width)).map (⟨op, offset⟩ :: ·) := by
  cases text with
  | nil => cases h
  | cons c rest =>
    have hc : c ≠ '(' := Operator.ne_paren_of_atFront? h
    obtain ⟨w, hw⟩ : ∃ w, op.width = w + 1 := ⟨op.width - 1, by have := op.width_pos; omega⟩
    rw [outside, h]
    · simp only [hw, Nat.add_sub_cancel, List.drop_succ_cons]
      cases outside (offset + (w + 1)) (rest.drop w) <;> rfl
    · exact hc

theorem outside_skip {c : Char} {rest : Text} (hc : c ≠ '(')
    (h : Operator.atFront? (c :: rest) = none) (offset : Nat) :
    outside offset (c :: rest) = outside (offset + 1) rest := by
  rw [outside, h]
  exact hc

/-- Induction on a text in the steps of a scan. -/
@[elab_as_elim]
theorem scan_induction {motive : Text → Prop} (nil : motive [])
    (group : ∀ rest close, closing? ('(' :: rest) = some close → motive (rest.drop close) →
      motive ('(' :: rest))
    (unclosed : ∀ rest, closing? ('(' :: rest) = none → motive ('(' :: rest))
    (operator : ∀ text op, Operator.atFront? text = some op → motive (text.drop op.width) →
      motive text)
    (skip : ∀ c rest, c ≠ '(' → Operator.atFront? (c :: rest) = none → motive rest →
      motive (c :: rest))
    (text : Text) : motive text := by
  induction h : text.length using Nat.strongRecOn generalizing text with
  | ind n ih =>
    subst h
    match text with
    | [] => exact nil
    | c :: rest =>
      by_cases hc : c = '('
      · subst hc
        cases hcl : closing? ('(' :: rest) with
        | none => exact unclosed rest hcl
        | some close =>
          refine group rest close hcl (ih _ ?_ _ rfl)
          simp only [List.length_drop, List.length_cons]
          omega
      · cases hop : Operator.atFront? (c :: rest) with
        | none => exact skip c rest hc hop (ih _ (Nat.lt_succ_self _) _ rfl)
        | some op =>
          refine operator _ op hop (ih _ ?_ _ rfl)
          have := op.width_pos
          simp only [List.length_drop, List.length_cons]
          omega

/-! ## Moving -/

/-- The same operator further right. -/
def shift (k : Nat) (o : Occurrence) : Occurrence := ⟨o.operator, o.offset + k⟩

/-- The same scan of a text that stands further right. -/
def moved (k : Nat) : Except Nat (List Occurrence) → Except Nat (List Occurrence)
  | .ok found => .ok (found.map (shift k))
  | .error position => .error (position + k)

theorem outside_add (offset k : Nat) (text : Text) :
    outside (offset + k) text = moved k (outside offset text) := by
  induction text using scan_induction generalizing offset with
  | nil => rw [outside_nil, outside_nil]; rfl
  | group rest close h ih =>
    rw [outside_group h, outside_group h, ← ih]
    congr 1
    omega
  | unclosed rest h => rw [outside_unclosed h, outside_unclosed h]; rfl
  | operator text op h ih =>
    rw [outside_operator h, outside_operator h, show offset + k + op.width = offset + op.width + k by
      omega, ih]
    cases outside (offset + op.width) (text.drop op.width) <;> rfl
  | skip c rest hc h ih =>
    rw [outside_skip hc h, outside_skip hc h, ← ih]
    congr 1
    omega

theorem outside_eq_moved (offset : Nat) (text : Text) :
    outside offset text = moved offset (outside 0 text) := by
  rw [← outside_add, Nat.zero_add]

/-! ## Joining and splitting -/

theorem outside_append {offset : Nat} {a b : Text} {found : List Occurrence}
    (h : outside offset a = .ok found) (hab : Apart a b) :
    outside offset (a ++ b) = (outside (offset + a.length) b).map (found ++ ·) := by
  induction a using scan_induction generalizing offset found with
  | nil =>
    rw [outside_nil, Except.ok.injEq] at h
    subst h
    rw [List.nil_append, List.length_nil, Nat.add_zero]
    cases outside offset b <;> rfl
  | group rest close hc ih =>
    have hlt := closing?_lt hc
    rw [List.length_cons] at hlt
    rw [outside_group hc] at h
    have hc' : closing? ('(' :: (rest ++ b)) = some close := closingFrom_append hc b
    rw [List.cons_append, outside_group hc', List.drop_append_of_le_length (by omega),
      ih h (hab.of_suffix ((List.drop_suffix _ _).trans (List.suffix_cons _ _)))]
    congr 2
    simp only [List.length_drop, List.length_cons]
    omega
  | unclosed rest hc => rw [outside_unclosed hc] at h; cases h
  | operator text op hop ih =>
    have hne : text ≠ [] := by rintro rfl; cases hop
    have hw := Operator.width_le_of_atFront? hop
    rw [outside_operator hop] at h
    cases hl : outside (offset + op.width) (text.drop op.width) with
    | error position => rw [hl] at h; cases h
    | ok later =>
      rw [hl] at h
      obtain rfl := Except.ok.inj h
      rw [outside_operator ((hab.atFront?_append hne).trans hop),
        List.drop_append_of_le_length hw, ih hl (hab.of_suffix (List.drop_suffix _ _)),
        List.length_drop, show offset + op.width + (text.length - op.width) = offset + text.length by
          omega]
      cases outside (offset + text.length) b <;> rfl
  | skip c rest hc hop ih =>
    rw [outside_skip hc hop] at h
    have hop' : Operator.atFront? (c :: (rest ++ b)) = none :=
      (hab.atFront?_append (List.cons_ne_nil c rest)).trans hop
    rw [List.cons_append, outside_skip hc hop', ih h (hab.of_suffix (List.suffix_cons _ _))]
    congr 2
    simp only [List.length_cons]
    omega

theorem outside_split {offset : Nat} {text : Text} {xs ys : List Occurrence} {o : Occurrence}
    (h : outside offset text = .ok (xs ++ o :: ys)) :
    ∃ left right, text = left ++ o.operator.symbol ++ right ∧ o.offset = offset + left.length ∧
      outside offset left = .ok xs ∧ outside (o.offset + o.operator.width) right = .ok ys := by
  induction text using scan_induction generalizing offset xs with
  | nil =>
    rw [outside_nil, Except.ok.injEq] at h
    exact absurd h.symm (by simp)
  | group rest close hc ih =>
    have hlt := closing?_lt hc
    rw [List.length_cons] at hlt
    rw [outside_group hc] at h
    obtain ⟨left, right, ht, ho, hl, hr⟩ := ih h
    have he : '(' :: rest = '(' :: (rest.take close ++ left) ++ o.operator.symbol ++ right := by
      rw [List.cons_append, List.cons_append, List.append_assoc, List.append_assoc,
        ← List.append_assoc left, ← ht, List.take_append_drop]
    refine ⟨'(' :: (rest.take close ++ left), right, he, ?_, ?_, hr⟩
    · rw [ho, List.length_cons, List.length_append, List.length_take]
      omega
    · have hc' : closing? ('(' :: (rest.take close ++ left)) = some close := by
        rw [he, List.append_assoc] at hc
        refine closingFrom_of_append hc ?_
        rw [List.length_cons, List.length_append, List.length_take]
        omega
      have hlen : (rest.take close).length = close := by rw [List.length_take]; omega
      rw [outside_group hc', List.drop_append_of_le_length (by omega), List.drop_of_length_le
        (by omega), List.nil_append, hl]
  | unclosed rest hc => rw [outside_unclosed hc] at h; cases h
  | operator text op hop ih =>
    obtain ⟨tail, ht⟩ := Operator.symbol_prefix_of_atFront? hop
    have hd : text.drop op.width = tail := by rw [← ht, Operator.width, List.drop_left]
    rw [outside_operator hop] at h
    cases hl : outside (offset + op.width) (text.drop op.width) with
    | error position => rw [hl] at h; cases h
    | ok later =>
      rw [hl] at h
      have h := Except.ok.inj h
      cases xs with
      | nil =>
        obtain ⟨rfl, rfl⟩ := List.cons.inj h
        exact ⟨[], tail, ht.symm, rfl, outside_nil _, by rw [← hd]; exact hl⟩
      | cons x xs =>
        obtain ⟨rfl, rfl⟩ := List.cons.inj h
        obtain ⟨left, right, he, ho, hx, hr⟩ := ih hl
        have ht' : text = op.symbol ++ left ++ o.operator.symbol ++ right := by
          rw [← ht, ← hd, he]
          simp only [List.append_assoc]
        refine ⟨op.symbol ++ left, right, ht', ?_, ?_, hr⟩
        · rw [ho, List.length_append, Operator.width]
          omega
        · have hop' : Operator.atFront? (op.symbol ++ left) = some op :=
            Operator.atFront?_symbol_append (b := o.operator.symbol ++ right)
              (by rw [← List.append_assoc, ← ht', hop])
          rw [outside_operator hop', Operator.width, List.drop_left, ← Operator.width, hx]
          rfl
  | skip c rest hc hop ih =>
    rw [outside_skip hc hop] at h
    obtain ⟨left, right, he, ho, hl, hr⟩ := ih h
    refine ⟨c :: left, right, by rw [he]; rfl, ?_, ?_, hr⟩
    · rw [ho, List.length_cons]
      omega
    · rw [he, List.append_assoc] at hop
      rw [outside_skip hc (Operator.atFront?_eq_none_of_append (a := c :: left) hop), hl]

/-! ## Text that a scan passes over -/

theorem outside_inert {text : Text} (h : ∀ c ∈ text, isInert c = true) (offset : Nat) :
    outside offset text = .ok [] := by
  induction text generalizing offset with
  | nil => exact outside_nil offset
  | cons c rest ih =>
    have hc := h c (.head _)
    have hop : Operator.atFront? (c :: rest) = none := by
      cases rest with
      | nil => exact ofChar?_inert hc
      | cons d rest =>
        show (Operator.ofPair? c d).or (Operator.ofChar? c) = none
        rw [ofPair?_inert_left hc, ofChar?_inert hc]
        rfl
    have hne : c ≠ '(' := by rintro rfl; exact absurd hc (by decide)
    rw [outside_skip hne hop, ih fun d hd => h d (.tail _ hd)]

theorem outside_append_inert (offset : Nat) (a : Text) {b : Text}
    (h : ∀ c ∈ b, isInert c = true) : outside offset (a ++ b) = outside offset a := by
  have apart (s : Text) : Apart s b := .of_inert_right h
  induction a using scan_induction generalizing offset with
  | nil => rw [List.nil_append, outside_inert h, outside_nil]
  | group rest close hc ih =>
    have hlt := closing?_lt hc
    rw [List.length_cons] at hlt
    have hc' : closing? ('(' :: (rest ++ b)) = some close := closingFrom_append hc b
    rw [List.cons_append, outside_group hc', outside_group hc,
      List.drop_append_of_le_length (by omega), ih]
  | unclosed rest hc =>
    have hc' : closing? ('(' :: (rest ++ b)) = none := by
      rw [← hc]
      exact closingFrom_append_plain 0 ('(' :: rest) fun c hm => isPlain_of_isInert (h c hm)
    rw [List.cons_append, outside_unclosed hc', outside_unclosed hc]
  | operator text op hop ih =>
    have hne : text ≠ [] := by rintro rfl; cases hop
    rw [outside_operator (((apart text).atFront?_append hne).trans hop), outside_operator hop,
      List.drop_append_of_le_length (Operator.width_le_of_atFront? hop), ih]
  | skip c rest hc hop ih =>
    have hop' : Operator.atFront? (c :: (rest ++ b)) = none :=
      ((apart _).atFront?_append (List.cons_ne_nil c rest)).trans hop
    rw [List.cons_append, outside_skip hc hop', outside_skip hc hop, ih]

theorem outside_inert_append (offset : Nat) {a : Text} (b : Text)
    (h : ∀ c ∈ a, isInert c = true) : outside offset (a ++ b) = outside (offset + a.length) b := by
  have apart : Apart a b := .of_inert_left h
  rw [outside_append (outside_inert h offset) apart]
  cases outside (offset + a.length) b <;> rfl

/-- Trimming moves what is found by the white space in front. -/
theorem exists_outside_trim (text : Text) :
    ∃ pre post, Text.isBlank pre = true ∧ Text.isBlank post = true ∧
      text = pre ++ Text.trim text ++ post ∧
      outside 0 text = moved pre.length (outside 0 (Text.trim text)) := by
  obtain ⟨pre, post, hpre, hpost, he⟩ := Text.exists_trim text
  refine ⟨pre, post, hpre, hpost, he, ?_⟩
  conv => lhs; rw [he]
  rw [outside_append_inert _ _ (inert_of_isBlank hpost),
    outside_inert_append _ _ (inert_of_isBlank hpre), outside_add]

theorem outside_trim (text : Text) :
    ∃ k, outside 0 text = moved k (outside 0 (Text.trim text)) := by
  obtain ⟨pre, -, -, -, -, hmoved⟩ := exists_outside_trim text
  exact ⟨pre.length, hmoved⟩

end Occurrence

end DialogGate
