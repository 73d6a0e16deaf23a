import DialogGate.Proofs.Expr.Failure
import DialogGate.Proofs.Expr.Sentence
import DialogGate.Proofs.Text.Keyword

/-! # Negations and inequalities as they are written

Every `!` of a derived text belongs to a negation of the tree or, with the `=` behind it, to an
inequality: `Marked` counts both, and a text that is put together from marked ones is marked, since
no spelling lies across their seams (`Marked.append`, `marked_of_derives`).

The keyword `not` is spelled as `!` before the condition is read. So a whole-word `not` is a
negation, unless an equals sign stands directly behind it; then both together are an inequality
(`written_negations_iff`).
-/

namespace DialogGate

open Grammar

namespace Text

/-- How many whole-word `not` are written. -/
def keywords (text : Text) : Nat := places isKeyword [] text

/-- How many whole-word `not` are written directly before an equals sign. -/
def fusedKeywords (text : Text) : Nat := places isFusedKeyword [] text

/-- How many exclamation marks are written without an equals sign behind them. -/
def loneMarks (text : Text) : Nat := places isLoneMark [] text

/-- How many exclamation marks are written with an equals sign behind them. -/
def inequalities (text : Text) : Nat := places isInequality [] text

theorem isFusedKeyword_eq_true_iff {before behind : Text} :
    isFusedKeyword before behind = true ↔
      endsInWord before = false ∧ "not=".toList <+: behind := by
  constructor
  · intro h
    obtain ⟨hk, he⟩ := Bool.and_eq_true_iff.1 h
    obtain ⟨hk, -⟩ := Bool.and_eq_true_iff.1 hk
    obtain ⟨hn, hw⟩ := Bool.and_eq_true_iff.1 hk
    obtain ⟨rest, rfl⟩ := List.isPrefixOf_iff_prefix.1 hn
    obtain ⟨after, rfl⟩ : "=".toList <+: rest := List.isPrefixOf_iff_prefix.1 he
    exact ⟨by simpa using hw, after, rfl⟩
  · rintro ⟨hw, after, rfl⟩
    show isFusedKeyword before ('n' :: 'o' :: 't' :: '=' :: after) = true
    rw [isFusedKeyword_not, isKeyword_not, hw]
    rfl

/-- A word character stands before every `not=` of the text. -/
theorem fusedKeywords_eq_zero_iff {text : Text} : text.fusedKeywords = 0 ↔
    ∀ before after, text = before ++ "not=".toList ++ after → endsInWord before = true := by
  rw [fusedKeywords, places_eq_zero_iff]
  constructor
  · rintro h before after rfl
    by_contra hw
    have hf := h before ("not=".toList ++ after) (List.append_assoc ..)
    rw [isFusedKeyword_eq_true_iff.2 ⟨Bool.eq_false_iff.2 hw, List.prefix_append ..⟩] at hf
    cases hf
  · rintro h before behind rfl
    refine Bool.eq_false_iff.2 fun hf => ?_
    obtain ⟨hw, after, rfl⟩ := isFusedKeyword_eq_true_iff.1 hf
    rw [h before after (List.append_assoc ..).symm] at hw
    cases hw

end Text

namespace Expr

def isNot : Expr → Bool
  | not _ => true
  | _ => false

def isInequality : Expr → Bool
  | binary op _ _ => op = .notEqual
  | _ => false

/-- How many negations the tree has. -/
def nots (e : Expr) : Nat := e.nodes.countP isNot

/-- How many inequalities the tree has. -/
def inequalities (e : Expr) : Nat := e.nodes.countP isInequality

theorem nots_not (e : Expr) : (not e).nots = e.nots + 1 := by
  rw [nots, nodes, List.countP_append]
  rfl

theorem inequalities_not (e : Expr) : (not e).inequalities = e.inequalities := by
  rw [inequalities, nodes, List.countP_append]
  rfl

theorem nots_binary (op : BinaryOp) (l r : Expr) : (binary op l r).nots = l.nots + r.nots := by
  rw [nots, nodes, List.countP_append, List.countP_append]
  rfl

theorem inequalities_binary (op : BinaryOp) (l r : Expr) :
    (binary op l r).inequalities =
      l.inequalities + r.inequalities + if op = .notEqual then 1 else 0 := by
  rw [inequalities, nodes, List.countP_append, List.countP_append, List.countP_singleton]
  simp only [isInequality, decide_eq_true_eq]
  rfl

end Expr

/-! ## Marks in a text -/

/-- The exclamation marks of the text are those of so many negations and so many inequalities. -/
structure Marked (text : Text) (nots inequalities : Nat) : Prop where
  count : text.count '!' = nots + inequalities
  pairs : ∀ before, Text.places Text.isInequality before text = inequalities

namespace Marked

variable {a b : Text} {m n m' n' : Nat}

theorem of_not_mem (h : '!' ∉ a) : Marked a 0 0 where
  count := List.count_eq_zero.2 h
  pairs before := by
    have := Text.count_mark before a
    rw [List.count_eq_zero.2 h] at this
    omega

theorem of_inert (h : ∀ c ∈ a, isInert c = true) : Marked a 0 0 :=
  of_not_mem fun hm => absurd (h '!' hm) (by decide)

theorem symbol (op : BinaryOp) : Marked op.symbol 0 (if op = .notEqual then 1 else 0) where
  count := by cases op <;> rfl
  pairs before := by
    cases op with
    | notEqual =>
      show Text.places _ before ['!', '='] = 1
      rw [Text.places_cons, Text.places_cons, Text.places_nil]
      rfl
    | _ => exact (of_not_mem (by decide)).pairs before

/-- An inequality at the place before a character is there whatever follows behind the seam. -/
theorem isInequality_append {c : Char} (h : Apart (c :: a) b) (before : Text) :
    Text.isInequality before (c :: (a ++ b)) = Text.isInequality before (c :: a) := by
  rw [Text.isInequality_cons, Text.isInequality_cons]
  cases a with
  | cons d a => rfl
  | nil =>
    cases b with
    | nil => rfl
    | cons d b =>
      cases hc : c == '!' with
      | false => rfl
      | true =>
        have hd : d ≠ '=' := by
          rintro rfl
          have hp := h c '=' rfl rfl
          rw [beq_iff_eq.1 hc] at hp
          cases hp
        show (true && ('=' == d && true)) = false
        rw [beq_eq_false_iff_ne.2 hd.symm]
        rfl

theorem append (h : Apart a b) (ha : Marked a m n) (hb : Marked b m' n') :
    Marked (a ++ b) (m + m') (n + n') where
  count := by
    rw [List.count_append, ha.count, hb.count]
    omega
  pairs before := by
    suffices Text.places Text.isInequality before (a ++ b) =
        Text.places Text.isInequality before a + n' by rw [this, ha.pairs]
    clear ha
    induction a generalizing before with
    | nil =>
      rw [List.nil_append, hb.pairs, Text.places_nil]
      exact (Nat.zero_add n').symm
    | cons c a ih =>
      rw [List.cons_append, Text.places_cons, Text.places_cons, isInequality_append h,
        ih (h.of_suffix (List.suffix_cons c a)), Nat.add_assoc]

/-- With white space around it. -/
theorem padded {pre post : Text} (hpre : Text.isBlank pre = true) (hpost : Text.isBlank post = true)
    (ha : Marked a m n) : Marked (pre ++ a ++ post) m n := by
  have h1 : Apart pre a := .of_inert_left (inert_of_isBlank hpre)
  have h2 : Apart (pre ++ a) post := .of_inert_right (inert_of_isBlank hpost)
  have h := ((of_inert (inert_of_isBlank hpre)).append h1 ha).append h2
    (of_inert (inert_of_isBlank hpost))
  rwa [Nat.zero_add, Nat.zero_add] at h

theorem binary {p q : Nat} {pre post : Text} (op : BinaryOp) (ha : Marked a m n)
    (hb : Marked b m' n') (hao : Operand p a) (hbo : Operand q b)
    (hpost : Text.isBlank post = true) (hpre : Text.isBlank pre = true) :
    Marked (a ++ post ++ op.symbol ++ pre ++ b) (m + m')
      (n + n' + if op = .notEqual then 1 else 0) := by
  have hnil : Text.isBlank [] = true := rfl
  have hleft : Marked (a ++ post) m n := by
    have h := ha.padded hnil hpost
    rwa [List.nil_append] at h
  have hright : Marked (pre ++ b) m' n' := by
    have h := hb.padded hpre hnil
    rwa [List.append_nil] at h
  have h := (hleft.append (hao.apart_behind hpost _) (symbol op)).append
    (hbo.apart_before hpre _) hright
  rw [← List.append_assoc] at h
  rwa [Nat.add_right_comm n, Nat.add_zero] at h

theorem not {p : Nat} {pre : Text} (ha : Marked a m n) (hao : Operand p a)
    (hpre : Text.isBlank pre = true) : Marked ('!' :: (pre ++ a)) (m + 1) n := by
  have hmark : Marked ['!'] 1 0 := by
    refine ⟨rfl, fun before => ?_⟩
    rw [Text.places_cons, Text.places_nil]
    rfl
  have hnil : Text.isBlank [] = true := rfl
  have hright := ha.padded hpre hnil
  rw [List.append_nil] at hright
  have h := hmark.append (hao.apart_before hpre _) hright
  rwa [Nat.add_comm 1, Nat.zero_add] at h

theorem enclosed (ha : Marked a m n) : Marked ('(' :: a ++ [')']) m n := by
  have h1 : Apart ['('] a := by
    rintro c d ⟨⟩ -
    exact Operator.ofPair?_eq_none_left (by decide) d
  have h2 : Apart (['('] ++ a) [')'] := by
    rintro c d - ⟨⟩
    exact Operator.ofPair?_eq_none_right (by decide) c
  have h := ((of_not_mem (by decide)).append h1 ha).append h2 (of_not_mem (by decide))
  rwa [Nat.zero_add, Nat.zero_add] at h

end Marked

/-! ## Marks in a derived text -/

theorem marked_of_derives {l : Level} {t : Text} {e : Expr} (h : Derives l t e) :
    Marked t e.nots e.inequalities := by
  induction h with
  | tighter _ _ ih => exact ih
  | left _ _ ha hpost hpre hb iha ihb =>
    rw [Expr.nots_binary, Expr.inequalities_binary]
    exact iha.binary _ ihb ha.operand hb.operand hpost hpre
  | power ha hpost hpre hb iha ihb =>
    rw [Expr.nots_binary, Expr.inequalities_binary]
    exact iha.binary .power ihb ha.operand hb.operand hpost hpre
  | signed hs hu =>
    refine .of_not_mem fun hm => ?_
    rcases List.mem_cons.1 hm with rfl | hm
    · exact absurd hs (by decide)
    · exact absurd (hu.inert '!' hm).1 (by decide)
  | not hpre ha ih =>
    rw [Expr.nots_not, Expr.inequalities_not]
    exact ih.not ha.operand hpre
  | boolean b => exact .of_not_mem (by cases b <;> decide)
  | number hu => exact .of_inert fun c hc => (hu.inert c hc).1
  | lookup hv _ hd => exact .of_inert fun c hc => (lookup_inert hv hd c hc).1
  | group hpre _ hpost ih => exact (ih.padded hpre hpost).enclosed

namespace Expr

variable {raw : Text} {e : Expr}

theorem marked_of_ofText (h : ofText raw = .ok e) :
    Marked (Text.spellNot raw) e.nots e.inequalities := by
  obtain ⟨pre, t, post, ht, hpre, hpost, hd⟩ := sentence_of_ofText h
  rw [ht]
  exact (marked_of_derives hd).padded hpre hpost

/-- Every whole-word `not` and every `!` is a negation, and every `!=` an inequality, but a
whole-word `not` with `=` directly behind it is an inequality. So the tree has as many negations and
inequalities as are written exactly if a word character stands before every `not=`. -/
theorem written_negations_iff (h : ofText raw = .ok e) :
    e.nots + raw.fusedKeywords = raw.keywords + raw.loneMarks ∧
      e.inequalities = raw.inequalities + raw.fusedKeywords ∧
      (e.nots = raw.keywords + raw.loneMarks ∧ e.inequalities = raw.inequalities ↔
        ∀ before after, raw = before ++ "not=".toList ++ after →
          Text.endsInWord before = true) := by
  have hm := marked_of_ofText h
  have hpairs : raw.inequalities + raw.fusedKeywords = e.inequalities := by
    rw [← hm.pairs [], Text.inequalities_spellNot]
    rfl
  have hcount : raw.loneMarks + raw.inequalities + raw.keywords = e.nots + e.inequalities := by
    rw [← hm.count, Text.count_spellNot, Text.count_mark []]
    rfl
  rw [← Text.fusedKeywords_eq_zero_iff]
  omega

/-- In `not (1 != 2) && !true` both negations and the inequality are as they are written. -/
theorem written_negations_parenthesized :
    let raw : Text := "not (1 != 2) && !true".toList
    ∃ e, ofText raw = .ok e ∧ e.nots = raw.keywords + raw.loneMarks ∧
      e.inequalities = raw.inequalities := by
  intro raw
  have h : ofText raw = .ok (binary .and (not (binary .notEqual (number (literal false ['1'] []))
      (number (literal false ['2'] [])))) (not (boolean true))) := by
    decide +kernel
  refine ⟨_, h, (written_negations_iff h).2.2.2 fun before after he => ?_⟩
  have hf : raw.fusedKeywords = 0 := by decide +kernel
  exact Text.fusedKeywords_eq_zero_iff.1 hf before after he

/-- In `1 not= 2` no negation is read, though `not` stands there as a whole word. -/
theorem written_negations_fused :
    let raw : Text := "1 not= 2".toList
    ∃ e, ofText raw = .ok e ∧
      ¬(e.nots = raw.keywords + raw.loneMarks ∧ e.inequalities = raw.inequalities) := by
  intro raw
  have h : ofText raw = .ok (binary .notEqual (number (literal false ['1'] []))
      (number (literal false ['2'] []))) := by
    decide +kernel
  refine ⟨_, h, fun hw => ?_⟩
  exact absurd hw.1 (by decide +kernel)

end Expr

end DialogGate
