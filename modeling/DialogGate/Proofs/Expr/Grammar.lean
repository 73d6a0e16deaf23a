import DialogGate.Proofs.Expr.Operand

/-! # The grammar of conditions

`Derives l text e`: on the level `l`, the text stands for the tree `e`. The levels and their
productions, loosest first:

```text
or       := and      | or '||' and
and      := equality | and '&&' equality
equality := relation | equality ('==' | '!=') relation
relation := sum      | relation ('<' | '>' | '<=' | '>=') sum
sum      := product  | signed literal | sum ('+' | '-') product
product  := power    | product ('*' | '/' | '%') power
power    := unary    | unary '**' power
unary    := primary  | '!' unary
primary  := true | false | unsigned literal | \v[digits] | \V[digits] | '(' or ')'
```

White space may stand on either side of an operator or a parenthesis, and around the whole
condition (`Sentence`). A signed literal is a sign directly before an unsigned one.

Every text that is derived on a level is an operand for the operators below that level
(`Derives.operand`).
-/

namespace DialogGate.Grammar

/-- The levels, loosest first. -/
inductive Level where
  | or | and | equality | relation | sum | product | power | unary | primary
  deriving DecidableEq, Repr

namespace Level

/-- The next tighter level. -/
def next? : Level → Option Level
  | or => some and
  | and => some equality
  | equality => some relation
  | relation => some sum
  | sum => some product
  | product => some power
  | power => some unary
  | unary => some primary
  | primary => none

/-- The operators of a level that group to the left. -/
def operators : Level → List BinaryOp
  | or => [.or]
  | and => [.and]
  | equality => [.equal, .notEqual]
  | relation => [.less, .greater, .lessEqual, .greaterEqual]
  | sum => [.add, .subtract]
  | product => [.multiply, .divide, .modulo]
  | power | unary | primary => []

/-- The lowest precedence of an operator on a level. -/
def bound : Level → Nat
  | or => 3
  | and => 4
  | equality => 8
  | relation => 9
  | sum => 11
  | product => 12
  | power => 13
  | unary => 14
  | primary => 15

end Level

/-- An unsigned literal: digits with an optional point and more digits behind them, or digits behind
a point; `whole` are the digits before the point and `fraction` those behind it. -/
inductive Unsigned : (text whole fraction : Text) → Prop where
  | whole {w : Text} : w ≠ [] → Text.IsDigits w → Unsigned w w []
  | point {w f : Text} : w ≠ [] → Text.IsDigits w → Text.IsDigits f → Unsigned (w ++ '.' :: f) w f
  | fraction {f : Text} : f ≠ [] → Text.IsDigits f → Unsigned ('.' :: f) [] f

/-- The number nearest to what a literal denotes. -/
def literal (negative : Bool) (whole fraction : Text) : Binary64 :=
  Binary64.ofDecimal negative (Nat.ofDigitChars 10 (whole ++ fraction) 0) (-fraction.length)

/-- The text stands for the tree on the level. -/
inductive Derives : Level → Text → Expr → Prop where
  | tighter {l l' t e} : l.next? = some l' → Derives l' t e → Derives l t e
  | left {l l' op a b post pre x y} : op ∈ l.operators → l.next? = some l' →
      Derives l a x → Text.isBlank post = true → Text.isBlank pre = true → Derives l' b y →
      Derives l (a ++ post ++ op.symbol ++ pre ++ b) (.binary op x y)
  | power {a b post pre x y} : Derives .unary a x → Text.isBlank post = true →
      Text.isBlank pre = true → Derives .power b y →
      Derives .power (a ++ post ++ BinaryOp.power.symbol ++ pre ++ b) (.binary .power x y)
  | signed {sign t w f} : sign = '+' ∨ sign = '-' → Unsigned t w f →
      Derives .sum (sign :: t) (.number (literal (sign = '-') w f))
  | not {a pre x} : Text.isBlank pre = true → Derives .unary a x →
      Derives .unary ('!' :: (pre ++ a)) (.not x)
  | boolean (b : Bool) : Derives .primary (if b then "true" else "false").toList (.boolean b)
  | number {t w f} : Unsigned t w f → Derives .primary t (.number (literal false w f))
  | lookup {v digits} : v = 'v' ∨ v = 'V' → digits ≠ [] → Text.IsDigits digits →
      Derives .primary ('\\' :: v :: '[' :: digits ++ [']'])
        (.lookup (.number (literal false digits [])))
  | group {a pre post x} : Text.isBlank pre = true → Derives .or a x → Text.isBlank post = true →
      Derives .primary ('(' :: (pre ++ a ++ post) ++ [')']) x

/-- The text is a condition with white space around it, and stands for the tree. -/
def Sentence (text : Text) (e : Expr) : Prop :=
  ∃ pre t post, text = pre ++ t ++ post ∧ Text.isBlank pre = true ∧ Text.isBlank post = true ∧
    Derives .or t e

/-! ## Levels and precedences -/

namespace Level

theorem bound_of_mem {l : Level} {op : BinaryOp} (h : op ∈ l.operators) :
    op.precedence = l.bound ∧ op.groupsRight = false := by
  cases l <;> simp only [operators, List.mem_cons, List.not_mem_nil, or_false] at h <;>
    rcases h with rfl | rfl | rfl | rfl <;> exact ⟨rfl, rfl⟩

theorem bound_lt_of_next? {l l' : Level} (h : l.next? = some l') : l.bound < l'.bound := by
  cases l <;> cases h <;> decide

/-- No operator lies between two levels that follow each other. -/
theorem bound_next_le {l l' : Level} (h : l.next? = some l') {op : Operator}
    (hop : l.bound < op.precedence) : l'.bound ≤ op.precedence := by
  rcases op with _ | op
  · cases l <;> cases h <;> first | decide | exact absurd hop (by decide)
  · cases l <;> cases h <;> cases op <;> first | decide | exact absurd hop (by decide)

theorem le_precedence (op : Operator) : 3 ≤ op.precedence := by
  rcases op with _ | op
  · decide
  · cases op <;> decide

theorem precedence_le (op : Operator) : op.precedence ≤ 14 := by
  rcases op with _ | op
  · decide
  · cases op <;> decide

theorem bound_le_primary (l : Level) : l.bound ≤ primary.bound := by
  cases l <;> decide

theorem or_le_bound (l : Level) : or.bound ≤ l.bound := by
  cases l <;> decide

/-- A level with operators that group to the left, and the next one, are looser than negation. -/
theorem bound_le_unary {l l' : Level} {op : BinaryOp} (h : op ∈ l.operators)
    (hn : l.next? = some l') : l.bound ≤ unary.bound ∧ l'.bound ≤ unary.bound := by
  cases l <;> cases hn <;> first | decide | cases h

/-- An operator of a level is cut at before those of its operands. -/
theorem fits_of_mem {l l' : Level} {op : BinaryOp} (h : op ∈ l.operators)
    (hn : l.next? = some l') : Fits op l.bound l'.bound := by
  obtain ⟨hp, hg⟩ := bound_of_mem h
  rw [Fits, hg, hp]
  exact ⟨Nat.le_refl _, bound_lt_of_next? hn⟩

/-- The level of the operators that are no negation. -/
theorem exists_level (op : BinaryOp) :
    op = .power ∨ ∃ l : Level, op ∈ l.operators := by
  cases op
  case power => exact .inl rfl
  all_goals refine .inr ?_
  case or => exact ⟨.or, by decide⟩
  case and => exact ⟨.and, by decide⟩
  case equal | notEqual => exact ⟨.equality, by decide⟩
  case less | greater | lessEqual | greaterEqual => exact ⟨.relation, by decide⟩
  case add | subtract => exact ⟨.sum, by decide⟩
  case multiply | divide | modulo => exact ⟨.product, by decide⟩

theorem exists_next_of_mem {l : Level} {op : BinaryOp} (h : op ∈ l.operators) :
    ∃ l', l.next? = some l' := by
  cases l <;> first | exact ⟨_, rfl⟩ | cases h

theorem exists_next {l l' : Level} (h : l.bound < l'.bound) :
    ∃ m, l.next? = some m ∧ m.bound ≤ l'.bound := by
  cases l <;> cases l' <;> first | exact absurd h (by decide) | exact ⟨_, rfl, by decide⟩

theorem bound_injective {l l' : Level} (h : l.bound = l'.bound) : l = l' := by
  cases l <;> cases l' <;> first | rfl | exact absurd h (by decide)

end Level

/-- What is derived on a level is derived on every looser one. -/
theorem Derives.loosen {l l' : Level} {t : Text} {e : Expr} (h : Derives l' t e)
    (hl : l.bound ≤ l'.bound) : Derives l t e := by
  rcases Nat.lt_or_eq_of_le hl with hlt | he
  · obtain ⟨m, hm, hle⟩ := Level.exists_next hlt
    exact .tighter hm (loosen h hle)
  · exact Level.bound_injective he ▸ h
termination_by l'.bound - l.bound
decreasing_by
  have := Level.bound_lt_of_next? hm
  omega

/-- Between operands of the tightest levels, any operator is the one of a condition. -/
theorem Derives.binary {a b post pre : Text} {x y : Expr} (op : BinaryOp) (ha : Derives .unary a x)
    (hpost : Text.isBlank post = true) (hpre : Text.isBlank pre = true) (hb : Derives .unary b y) :
    Derives .or (a ++ post ++ op.symbol ++ pre ++ b) (.binary op x y) := by
  rcases Level.exists_level op with rfl | ⟨l, hl⟩
  · have hpower : Derives .power _ (.binary .power x y) :=
      .power ha hpost hpre (hb.loosen (by decide))
    exact hpower.loosen (by decide)
  · obtain ⟨l', hn⟩ := Level.exists_next_of_mem hl
    have hle := Level.bound_le_unary hl hn
    have hleft : Derives l _ (.binary op x y) :=
      .left hl hn (ha.loosen hle.1) hpost hpre (hb.loosen hle.2)
    exact hleft.loosen (Level.or_le_bound l)

/-! ## Derived texts as operands -/

theorem isSpace_digit {c : Char} (h : '0' ≤ c ∧ c ≤ '9') : Text.isSpace c = false := by
  have lo : 0x30 ≤ c.toNat := h.1
  have hi : c.toNat ≤ 0x39 := h.2
  rw [Text.isSpace, Text.spaceRanges, CharClass.has, if_neg (by omega), if_neg (by omega),
    CharClass.has, if_neg (by omega), if_neg (by omega), CharClass.has, if_pos (by omega)]

theorem digits_inert {t : Text} (h : Text.IsDigits t) :
    ∀ c ∈ t, isInert c = true ∧ Text.isSpace c = false :=
  fun c hc => ⟨isInert_of_isDigit (Text.isDigit_of_le (h c hc)), isSpace_digit (h c hc)⟩

theorem Unsigned.ne_nil {t w f : Text} (h : Unsigned t w f) : t ≠ [] := by
  cases h with
  | whole hne => exact hne
  | point | fraction => simp

theorem Unsigned.mem {t w f : Text} (h : Unsigned t w f) {c : Char} (hc : c ∈ t) :
    ('0' ≤ c ∧ c ≤ '9') ∨ c = '.' := by
  cases h with
  | whole _ hw => exact .inl (hw c hc)
  | point _ hw hf =>
    rcases List.mem_append.1 hc with hc | hc
    · exact .inl (hw c hc)
    · exact (List.mem_cons.1 hc).elim .inr fun hc => .inl (hf c hc)
  | fraction _ hf => exact (List.mem_cons.1 hc).elim .inr fun hc => .inl (hf c hc)

theorem Unsigned.inert {t w f : Text} (h : Unsigned t w f) :
    ∀ c ∈ t, isInert c = true ∧ Text.isSpace c = false := by
  intro c hc
  rcases h.mem hc with hd | rfl
  · exact ⟨isInert_of_isDigit (Text.isDigit_of_le hd), isSpace_digit hd⟩
  · decide

theorem boolean_operand (p : Nat) (b : Bool) :
    Operand p (if b then "true" else "false").toList := by
  cases b <;> exact .of_inert (by decide) (inert_of_all (by decide))

theorem lookup_inert {v : Char} {digits : Text} (hv : v = 'v' ∨ v = 'V')
    (hd : Text.IsDigits digits) :
    ∀ c ∈ '\\' :: v :: '[' :: digits ++ [']'], isInert c = true ∧ Text.isSpace c = false := by
  intro c hc
  simp only [List.cons_append, List.mem_cons, List.mem_append, List.not_mem_nil, or_false] at hc
  rcases hc with rfl | rfl | rfl | hc | rfl
  · decide
  · rcases hv with rfl | rfl <;> decide
  · decide
  · exact digits_inert hd c hc
  · decide

theorem lookup_operand (p : Nat) {v : Char} {digits : Text} (hv : v = 'v' ∨ v = 'V')
    (hd : Text.IsDigits digits) : Operand p ('\\' :: v :: '[' :: digits ++ [']']) :=
  .of_inert (by simp) (lookup_inert hv hd)

theorem Derives.operand {l : Level} {t : Text} {e : Expr} (h : Derives l t e) :
    Operand l.bound t := by
  induction h with
  | tighter hn _ ih => exact ih.mono (Nat.le_of_lt (Level.bound_lt_of_next? hn))
  | left hop hn _ hpost hpre _ iha ihb =>
    exact iha.binary ihb hpost hpre (.binary _) (Nat.le_refl _)
      (Nat.le_of_lt (Level.bound_lt_of_next? hn)) (Nat.le_of_eq (Level.bound_of_mem hop).1.symm)
  | power _ hpost hpre _ iha ihb =>
    exact iha.binary ihb hpost hpre (.binary .power) (by decide) (Nat.le_refl _) (by decide)
  | signed hs hu => exact .signed hs hu.ne_nil hu.inert
  | not hpre _ ih => exact ih.not hpre
  | boolean b => exact boolean_operand _ b
  | number hu => exact .of_inert hu.ne_nil hu.inert
  | lookup hv _ hd => exact lookup_operand _ hv hd
  | group hpre _ hpost ih =>
    exact .enclosed (((Balanced.of_plain (blank_plain hpre)).append ih.balanced).append
      (.of_plain (blank_plain hpost)))

end DialogGate.Grammar
