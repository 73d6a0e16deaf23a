import DialogGate.Expr.Cursor
import DialogGate.Expr.Parser
import DialogGate.Proofs.Operator.Loosest
import DialogGate.Proofs.Operator.Outside
import Mathlib.Data.List.Basic

/-! # What a cursor finds

From the front of a text whose parentheses are closed, a cursor finds the operator to cut at: none
outside parentheses is looser, and of those that are as loose it is the last one, but the first one
of negations and of powers (`Cursor.loosest_exact`).

Cutting there neither makes nor breaks an operator (`Cursor.halves_exact`). What stands on the left
of an operator is read as if the text ended there, and what stands on its right as if it began there,
so the operators of both sides are found again, and they bind as tight as the rule of the cut says.
-/

namespace DialogGate

namespace Operator

/-- Of several operators like this one the first is cut at. -/
def KeepsFirst (op : Operator) : Prop := op = not ∨ op = binary .power

theorem laterWins_eq_false_iff {op : Operator} : op.laterWins = false ↔ op.KeepsFirst := by
  rcases op with _ | op
  · exact iff_of_true rfl (.inl rfl)
  · cases op <;> simp [laterWins, BinaryOp.groupsRight, KeepsFirst]

theorem laterWins_of_not_keepsFirst {op : Operator} (h : ¬op.KeepsFirst) : op.laterWins = true :=
  Bool.of_not_eq_false fun hw => h (laterWins_eq_false_iff.1 hw)

end Operator

namespace Occurrence

variable {text : Text} {found left right : List Occurrence} {o : Occurrence}

/-! ## The loosest operator -/

/-- No operator outside parentheses is looser, and of those that are as loose it is the first one or
the last one, whichever is kept of its kind. -/
structure IsLoosest (text : Text) (o : Occurrence) : Prop where
  outside : IsOutside text o
  lowest : ∀ p, IsOutside text p → o.operator.precedence ≤ p.operator.precedence
  first : o.operator.KeepsFirst → ∀ p, IsOutside text p →
    p.operator.precedence = o.operator.precedence → o.offset ≤ p.offset
  last : ¬o.operator.KeepsFirst → ∀ p, IsOutside text p →
    p.operator.precedence = o.operator.precedence → p.offset ≤ o.offset

/-- How tight the operators on either side of the one to cut at are. -/
structure Tighter (o : Occurrence) (left right : List Occurrence) : Prop where
  ofFirst : o.operator.KeepsFirst →
    (∀ p ∈ left, o.operator.precedence < p.operator.precedence) ∧
      ∀ p ∈ right, o.operator.precedence ≤ p.operator.precedence
  ofLast : ¬o.operator.KeepsFirst →
    (∀ p ∈ left, o.operator.precedence ≤ p.operator.precedence) ∧
      ∀ p ∈ right, o.operator.precedence < p.operator.precedence

theorem tighter_iff :
    Tighter o left right ↔
      (∀ p ∈ left, o.replaces p = true) ∧ ∀ p ∈ right, ¬p.replaces o = true := by
  constructor
  · intro h
    by_cases hk : o.operator.KeepsFirst
    · obtain ⟨hl, hr⟩ := h.ofFirst hk
      exact ⟨fun p hp => replaces_of_precedence_lt (hl p hp),
        fun p hp => not_replaces_of_firstWins (hr p hp) (Operator.laterWins_eq_false_iff.2 hk)⟩
    · obtain ⟨hl, hr⟩ := h.ofLast hk
      exact ⟨fun p hp => replaces_of_laterWins (hl p hp) (Operator.laterWins_of_not_keepsFirst hk),
        fun p hp => not_replaces_of_precedence_lt (hr p hp)⟩
  · rintro ⟨hl, hr⟩
    refine ⟨fun hk => ?_, fun hk => ?_⟩
    · have hw := Operator.laterWins_eq_false_iff.2 hk
      exact ⟨fun p hp => precedence_lt_of_replaces (hl p hp) hw,
        fun p hp => precedence_le_of_not_replaces (hr p hp)⟩
    · have hw := Operator.laterWins_of_not_keepsFirst hk
      exact ⟨fun p hp => precedence_le_of_replaces (hl p hp),
        fun p hp => precedence_lt_of_not_replaces (hr p hp) hw⟩

theorem loosest?_eq_some_iff_tighter :
    loosest? found = some o ↔ ∃ left right, found = left ++ o :: right ∧ Tighter o left right := by
  simp only [loosest?_eq_some_iff, tighter_iff]

theorem Lists.on_left (h : Lists text (left ++ o :: right)) {p : Occurrence} (hp : p ∈ left) :
    IsOutside text p ∧ p.offset < o.offset :=
  ⟨(h.mem_iff p).1 (List.mem_append_left _ hp),
    (List.pairwise_append.1 h.ascending).2.2 p hp o (.head _)⟩

theorem Lists.on_right (h : Lists text (left ++ o :: right)) {p : Occurrence} (hp : p ∈ right) :
    IsOutside text p ∧ o.offset < p.offset :=
  ⟨(h.mem_iff p).1 (List.mem_append_right _ (.tail _ hp)),
    (List.pairwise_cons.1 (List.pairwise_append.1 h.ascending).2.1).1 p hp⟩

theorem Lists.side (h : Lists text (left ++ o :: right)) {p : Occurrence} (hp : IsOutside text p) :
    p ∈ left ∨ p = o ∨ p ∈ right := by
  simpa using (h.mem_iff p).2 hp

theorem isLoosest_of_tighter (h : Lists text (left ++ o :: right)) (ht : Tighter o left right) :
    IsLoosest text o := by
  refine ⟨(h.mem_iff o).1 (by simp), fun p hp => ?_, fun hk p hp he => ?_, fun hk p hp he => ?_⟩
  · obtain ⟨hl, hr⟩ := tighter_iff.1 ht
    rcases h.side hp with hp | rfl | hp
    · exact precedence_le_of_replaces (hl p hp)
    · exact Nat.le_refl _
    · exact precedence_le_of_not_replaces (hr p hp)
  · rcases h.side hp with hp | rfl | hp
    · exact absurd he (Nat.ne_of_gt ((ht.ofFirst hk).1 p hp))
    · exact Nat.le_refl _
    · exact Nat.le_of_lt (h.on_right hp).2
  · rcases h.side hp with hp | rfl | hp
    · exact Nat.le_of_lt (h.on_left hp).2
    · exact Nat.le_refl _
    · exact absurd he (Nat.ne_of_gt ((ht.ofLast hk).2 p hp))

theorem tighter_of_isLoosest (h : Lists text (left ++ o :: right)) (ho : IsLoosest text o) :
    Tighter o left right := by
  refine ⟨fun hk => ⟨fun p hp => ?_, fun p hp => ?_⟩, fun hk => ⟨fun p hp => ?_, fun p hp => ?_⟩⟩
  · obtain ⟨hout, hlt⟩ := h.on_left hp
    exact Nat.lt_of_le_of_ne (ho.lowest p hout) fun he =>
      Nat.not_lt.2 (ho.first hk p hout he.symm) hlt
  · exact ho.lowest p (h.on_right hp).1
  · exact ho.lowest p (h.on_left hp).1
  · obtain ⟨hout, hlt⟩ := h.on_right hp
    exact Nat.lt_of_le_of_ne (ho.lowest p hout) fun he =>
      Nat.not_lt.2 (ho.last hk p hout he.symm) hlt

/-- Among the operators that a text lists, the one picked is the one to cut at. -/
theorem Lists.loosest?_eq_some_iff (h : Lists text found) :
    loosest? found = some o ↔ IsLoosest text o := by
  rw [loosest?_eq_some_iff_tighter]
  constructor
  · rintro ⟨left, right, rfl, ht⟩
    exact isLoosest_of_tighter h ht
  · intro ho
    obtain ⟨left, right, rfl⟩ := List.append_of_mem ((h.mem_iff o).2 ho.outside)
    exact ⟨left, right, rfl, tighter_of_isLoosest h ho⟩

theorem Lists.loosest?_eq_none_iff (h : Lists text found) :
    loosest? found = none ↔ ∀ o, ¬IsOutside text o := by
  cases found with
  | nil => exact iff_of_true rfl fun o ho => List.not_mem_nil ((h.mem_iff o).2 ho)
  | cons first later =>
    exact iff_of_false (Option.some_ne_none _) fun hn => hn first ((h.mem_iff first).1 (.head _))

end Occurrence

open Occurrence

theorem Cursor.loosest_of_outside {text : Text} {found : List Occurrence}
    (h : outside 0 text = .ok found) : (start text).loosest.1 = .ok (loosest? found) := by
  rw [loosest, start, List.drop_zero, h]

/-- If every `(` outside parentheses is closed, a cursor finds the operator to cut at, and it finds
none exactly if there is none. -/
theorem Cursor.loosest_exact {text : Text} (h : Matched text) :
    (∃ found, (start text).loosest.1 = .ok found) ∧
      ((start text).loosest.1 = .ok none ↔ ∀ o, ¬IsOutside text o) ∧
      ∀ o, (start text).loosest.1 = .ok (some o) ↔ IsLoosest text o := by
  obtain ⟨found, ho, hlists⟩ := h.exists_outside
  rw [loosest_of_outside ho]
  refine ⟨⟨_, rfl⟩, ?_, fun o => ?_⟩
  · rw [Except.ok.injEq, hlists.loosest?_eq_none_iff]
  · rw [Except.ok.injEq, hlists.loosest?_eq_some_iff]

/-- Of the two powers outside parentheses in `(1 < 2) ** !3 ** 4` the first one is found, though the
negation stands between them. -/
theorem Cursor.loosest_exact_powers :
    let text : Text := "(1 < 2) ** !3 ** 4".toList
    Matched text ∧ IsLoosest text ⟨.binary .power, 8⟩ := by
  intro text
  have ho : outside 0 text =
      .ok [⟨.binary .power, 8⟩, ⟨.not, 11⟩, ⟨.binary .power, 14⟩] := by
    decide +kernel
  have hm : Matched text := (lists_outside ho).matched
  refine ⟨hm, ((loosest_exact hm).2.2 _).1 ?_⟩
  rw [loosest_of_outside ho]
  rfl

namespace Occurrence

/-! ## The two sides of a cut -/

/-- Trimmed, a text has the same operators, moved by the white space in front of them. -/
def ListsTrimmed (text : Text) (found : List Occurrence) : Prop :=
  ∃ pre post inner, Text.isBlank pre = true ∧ Text.isBlank post = true ∧
    text = pre ++ Text.trim text ++ post ∧ Lists (Text.trim text) inner ∧
    found = inner.map (shift pre.length)

/-- The operators of a text are those of its part before `o`, `o` itself, and those of its part
behind `o`, whether or not the parts are trimmed. -/
structure Halves (text : Text) (o : Occurrence) (left right : List Occurrence) : Prop where
  spelled : text = o.before text ++ o.operator.symbol ++ o.after text
  before : Lists (o.before text) left
  after : Lists (o.after text) right
  whole : Lists text (left ++ o :: right.map (shift (o.offset + o.operator.width)))
  beforeTrimmed : ListsTrimmed (o.before text) left
  afterTrimmed : ListsTrimmed (o.after text) right
  tighter : Tighter o left right

theorem Tighter.of_map {k : Nat} (h : Tighter o left (right.map (shift k))) :
    Tighter o left right where
  ofFirst hk := ⟨(h.ofFirst hk).1, fun p hp => (h.ofFirst hk).2 (shift k p) (List.mem_map_of_mem hp)⟩
  ofLast hk := ⟨(h.ofLast hk).1, fun p hp => (h.ofLast hk).2 (shift k p) (List.mem_map_of_mem hp)⟩

theorem exists_of_moved {k : Nat} {result : Except Nat (List Occurrence)}
    (h : moved k result = .ok found) : ∃ inner, result = .ok inner ∧ found = inner.map (shift k) := by
  cases result with
  | error position => cases h
  | ok inner => exact ⟨inner, rfl, (Except.ok.inj h).symm⟩

theorem listsTrimmed_outside (h : outside 0 text = .ok found) : ListsTrimmed text found := by
  obtain ⟨pre, post, hpre, hpost, he, hmoved⟩ := exists_outside_trim text
  obtain ⟨inner, hinner, hfound⟩ := exists_of_moved (hmoved.symm.trans h)
  exact ⟨pre, post, inner, hpre, hpost, he, lists_outside hinner, hfound⟩

/-- A scan that has found an operator finds on either side of it what it found around it. -/
theorem exists_sides {behind : List Occurrence} (h : outside 0 text = .ok (left ++ o :: behind)) :
    text = o.before text ++ o.operator.symbol ++ o.after text ∧
      outside 0 (o.before text) = .ok left ∧
      ∃ right, outside 0 (o.after text) = .ok right ∧
        behind = right.map (shift (o.offset + o.operator.width)) := by
  obtain ⟨a, b, he, ho, hleft, hright⟩ := outside_split h
  rw [Nat.zero_add] at ho
  have hbefore : o.before text = a := by
    rw [before, ho, he, List.append_assoc, List.take_left]
  have hafter : o.after text = b := by
    rw [after, ho, Operator.width, ← List.length_append, he, List.drop_left]
  rw [outside_eq_moved] at hright
  obtain ⟨right, hr, hbehind⟩ := exists_of_moved hright
  rw [hbefore, hafter]
  exact ⟨he, hleft, right, hr, hbehind⟩

end Occurrence

/-- Where a cursor finds an operator to cut at, the text and the parts that it is cut into have the
same operators outside parentheses, with every `(` closed in its part. -/
theorem Cursor.halves_exact {text : Text} {o : Occurrence}
    (h : (start text).loosest.1 = .ok (some o)) : ∃ left right, Halves text o left right := by
  cases ho : outside 0 text with
  | error position =>
    rw [loosest, start, List.drop_zero, ho] at h
    cases h
  | ok found =>
    rw [loosest_of_outside ho, Except.ok.injEq, loosest?_eq_some_iff_tighter] at h
    obtain ⟨left, behind, rfl, ht⟩ := h
    obtain ⟨he, hleft, right, hright, rfl⟩ := exists_sides ho
    exact ⟨left, right, he, lists_outside hleft, lists_outside hright, lists_outside ho,
      listsTrimmed_outside hleft, listsTrimmed_outside hright, ht.of_map⟩

/-- `-(1 < 2) * 3!= !4 <5` is cut at `!=`, with the spellings of other operators on both sides. -/
theorem Cursor.halves_exact_inequality :
    let text : Text := "-(1 < 2) * 3!= !4 <5".toList
    (start text).loosest.1 = .ok (some ⟨.binary .notEqual, 12⟩) ∧
      ∃ left right, Halves text ⟨.binary .notEqual, 12⟩ left right := by
  intro text
  have h : (start text).loosest.1 = .ok (some ⟨.binary .notEqual, 12⟩) := by decide +kernel
  exact ⟨h, halves_exact h⟩

end DialogGate
