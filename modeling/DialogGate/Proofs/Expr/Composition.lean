import DialogGate.Proofs.Expr.Sentence
import DialogGate.Proofs.Text.Keyword

/-! # Conditions put together from conditions

A condition in parentheses can be an operand of any other condition. Its keywords are spelled
without regard to what stands around it, and the grammar derives it on the tightest level
(`Contained`), so no operator, sign or keyword inside it groups with one outside (`ofText_compose`).
-/

namespace DialogGate

open Grammar

/-- The text in one or more layers of parentheses, with white space inside each of them. -/
inductive Wrapped (a : Text) : Text → Prop
  | once {pre post : Text} : Text.isBlank pre = true → Text.isBlank post = true →
      Wrapped a ('(' :: (pre ++ a ++ post) ++ [')'])
  | again {t pre post : Text} : Wrapped a t → Text.isBlank pre = true → Text.isBlank post = true →
      Wrapped a ('(' :: (pre ++ t ++ post) ++ [')'])

/-- Whatever stands around it, the text is spelled as one that stands for the tree on the level. -/
def Contained (l : Level) (raw : Text) (e : Expr) : Prop :=
  ∃ t, Text.Delimited raw t ∧ Derives l t e

namespace Expr

variable {raw pre post : Text} {e : Expr}

theorem ofText_padded (h : ofText raw = .ok e) (hpre : Text.isBlank pre = true)
    (hpost : Text.isBlank post = true) : ofText (pre ++ raw ++ post) = .ok e := by
  obtain ⟨pre', t, post', ht, hpre', hpost', hd⟩ := sentence_of_ofText h
  refine ofText_of_sentence ⟨pre ++ pre', t, post' ++ post, ?_, Text.isBlank_append.2 ⟨hpre, hpre'⟩,
    Text.isBlank_append.2 ⟨hpost', hpost⟩, hd⟩
  rw [Text.spellNot_padded hpre hpost, ht]
  simp only [List.append_assoc]

end Expr

namespace Contained

variable {l : Level} {a b pre post : Text} {x y : Expr}

theorem ofText (h : Contained l a x) : Expr.ofText a = .ok x := by
  obtain ⟨t, ht, hd⟩ := h
  refine Expr.ofText_of_sentence ⟨[], t, [], ?_, rfl, rfl, hd.loosen (Level.or_le_bound l)⟩
  rw [ht.spellNot_eq, List.nil_append, List.append_nil]

theorem enclosed (h : Expr.ofText a = .ok x) : Contained .primary ('(' :: a ++ [')']) x := by
  refine ⟨_, Text.delimited_enclosed a, ?_⟩
  obtain ⟨pre, t, post, ht, hpre, hpost, hd⟩ := Expr.sentence_of_ofText h
  rw [ht]
  exact .group hpre hd hpost

theorem binary (op : BinaryOp) (ha : Contained .primary a x) (hb : Contained .primary b y)
    (hpost : Text.isBlank post = true) (hpre : Text.isBlank pre = true) :
    Contained .or (a ++ post ++ op.symbol ++ pre ++ b) (.binary op x y) := by
  obtain ⟨s, hs, hx⟩ := ha
  obtain ⟨t, ht, hy⟩ := hb
  have hop : Text.Delimited op.symbol op.symbol :=
    Text.delimited_of_breaks (by cases op <;> decide +kernel)
  exact ⟨s ++ post ++ op.symbol ++ pre ++ t,
    (((hs.append (Text.delimited_of_isBlank hpost)).append hop).append
      (Text.delimited_of_isBlank hpre)).append ht,
    .binary op (.tighter rfl hx) hpost hpre (.tighter rfl hy)⟩

theorem not (ha : Contained .primary a x) (hpre : Text.isBlank pre = true) :
    Contained .unary ('!' :: (pre ++ a)) (.not x) := by
  obtain ⟨s, hs, hx⟩ := ha
  have hmark : Text.Delimited ['!'] ['!'] := Text.delimited_of_breaks (by decide +kernel)
  exact ⟨'!' :: (pre ++ s), hmark.append ((Text.delimited_of_isBlank hpre).append hs),
    .not hpre (.tighter rfl hx)⟩

end Contained

theorem Wrapped.contained {a s : Text} {e : Expr} (h : Expr.ofText a = .ok e) (hs : Wrapped a s) :
    Contained .primary s e := by
  induction hs with
  | once hpre hpost => exact .enclosed (Expr.ofText_padded h hpre hpost)
  | again _ hpre hpost ih => exact .enclosed (Expr.ofText_padded ih.ofText hpre hpost)

/-- White space or a parenthesis behind a keyword ends the word. -/
theorem Wrapped.startsInWord {a s pre : Text} (hs : Wrapped a s) (hpre : Text.isBlank pre = true) :
    Text.startsInWord (pre ++ s) = false := by
  cases pre with
  | cons c pre => exact Text.isWord_of_isSpace (Text.isBlank_iff.1 hpre c (.head _))
  | nil =>
    have hopen : Text.isWord '(' = false := by decide +kernel
    cases hs <;> exact hopen

namespace Expr

/-- Conditions that can be read, each in parentheses, are the operands of every operator between
them and of a negation before them, in either spelling; parentheses alone change nothing. White
space may stand inside and outside the parentheses and around the operator. -/
theorem ofText_compose {a b s t : Text} {x y : Expr} (ha : ofText a = .ok x)
    (hb : ofText b = .ok y) (hs : Wrapped a s) (ht : Wrapped b t) {pre post left right : Text}
    (hpre : Text.isBlank pre = true) (hpost : Text.isBlank post = true)
    (hleft : Text.isBlank left = true) (hright : Text.isBlank right = true) :
    ofText (pre ++ s ++ post) = .ok x ∧
    (∀ op : BinaryOp, ofText (pre ++ (s ++ left ++ op.symbol ++ right ++ t) ++ post) =
      .ok (binary op x y)) ∧
    ofText (pre ++ ("!".toList ++ left ++ s) ++ post) = .ok (not x) ∧
    ofText (pre ++ ("not".toList ++ left ++ s) ++ post) = .ok (not x) := by
  have hx := hs.contained ha
  have hy := ht.contained hb
  have hnot : ofText ("!".toList ++ left ++ s) = .ok (not x) := (hx.not hleft).ofText
  refine ⟨ofText_padded hx.ofText hpre hpost,
    fun op => ofText_padded (hx.binary op hy hleft hright).ofText hpre hpost,
    ofText_padded hnot hpre hpost, ofText_padded ?_ hpre hpost⟩
  -- both spellings of the negation become the same text
  have hkeyword : Text.spellNot ("not".toList ++ left ++ s) =
      Text.spellNot ("!".toList ++ left ++ s) := by
    have hmark : Text.Delimited ['!'] ['!'] := Text.delimited_of_breaks (by decide +kernel)
    rw [List.append_assoc, Text.spellNot_keyword (hs.startsInWord hleft), List.append_assoc]
    exact (hmark (left ++ s)).symm
  rw [ofText, hkeyword]
  exact hnot

/-- `1 < 2` in one layer of parentheses and `not true` in two, with a blank around the whole and
around the operators. -/
theorem ofText_compose_comparison :
    let x := binary .less (number (literal false ['1'] [])) (number (literal false ['2'] []))
    let y := not (boolean true)
    let s := "(1 < 2)".toList
    let t := "((not true ))".toList
    ofText ([' '] ++ s ++ [' ']) = .ok x ∧
    (∀ op : BinaryOp, ofText ([' '] ++ (s ++ [' '] ++ op.symbol ++ [' '] ++ t) ++ [' ']) =
      .ok (binary op x y)) ∧
    ofText ([' '] ++ ("!".toList ++ [' '] ++ s) ++ [' ']) = .ok (not x) ∧
    ofText ([' '] ++ ("not".toList ++ [' '] ++ s) ++ [' ']) = .ok (not x) := by
  intro x y s t
  have hx : ofText "1 < 2".toList = .ok x := by decide +kernel
  have hy : ofText "not true".toList = .ok y := by decide +kernel
  have hnil : Text.isBlank [] = true := rfl
  have hblank : Text.isBlank [' '] = true := rfl
  have hs : Wrapped "1 < 2".toList s := .once hnil hnil
  have ht : Wrapped "not true".toList t := .again (.once hnil hblank) hnil hnil
  exact ofText_compose hx hy hs ht hblank hblank hblank hblank

end Expr

end DialogGate
