import DialogGate.Expr.Parser

/-! # The cuts behind an expression

`Expr.cuts` lists the operators that a condition is cut at while it is read, in the order of the
cuts. They are what a log can tell about reading.

* `cutting_readable`: the list goes on behind a part exactly if that part can be read.
-/

namespace DialogGate.Expr

/-- The operators that a text is cut at while it is read, each with the text that it cuts, in the
order of the cuts; and whether the text can be read. What stands to the right of a part that cannot
be read is not looked at. -/
def cutting (text : Text) : List (Text × Occurrence) × Bool :=
  if Text.isBlank text then
    ([], false)
  else
    let trimmed := Text.trim text
    match _h : Cut.of trimmed with
    | .error _ => ([], false)
    | .ok (.leaf _) => ([], true)
    | .ok (.group inner) => cutting inner
    | .ok (.split o) =>
      match o.operator with
      | .not =>
        if Text.isBlank (o.before trimmed) then
          let (inner, readable) := cutting (o.after trimmed)
          ((trimmed, o) :: inner, readable)
        else
          ([(trimmed, o)], false)
      | .binary _ =>
        match cutting (o.before trimmed) with
        | (left, false) => ((trimmed, o) :: left, false)
        | (left, true) =>
          let (right, readable) := cutting (o.after trimmed)
          ((trimmed, o) :: (left ++ right), readable)
termination_by text.length
decreasing_by
  all_goals have hl := Text.length_trim_le text
  · exact Nat.lt_of_lt_of_le (Cut.length_group_lt _h) hl
  · exact Nat.lt_of_lt_of_le (Occurrence.length_after_lt (Cut.offset_lt_of_split _h)) hl
  · exact Nat.lt_of_lt_of_le (Occurrence.length_before_lt (Cut.offset_lt_of_split _h)) hl
  · exact Nat.lt_of_lt_of_le (Occurrence.length_after_lt (Cut.offset_lt_of_split _h)) hl

/-- The operators that a condition is cut at while it is read, each with the text that it cuts. -/
def cuts (raw : Text) : List (Text × Occurrence) := (cutting (Text.spellNot raw)).1

/-! ## When a part can be read -/

theorem isOk_map {ε α β : Type} (f : α → β) (x : Except ε α) : (x.map f).isOk = x.isOk := by
  cases x <;> rfl

theorem cutting_readable (place : Place) (text : Text) :
    (cutting text).2 = (parseAt place text).isOk := by
  fun_induction cutting text generalizing place with
  | case1 text hb => rw [parseAt, if_pos hb]; rfl
  | case2 text hb trimmed e hc => rw [parseAt_error hb hc]; rfl
  | case3 text hb trimmed e hc => rw [parseAt_leaf hb hc]; rfl
  | case4 text hb trimmed inner hc ih => rw [parseAt_group hb hc, ih]
  | case5 text hb trimmed o hc ho hn inner readable hi ih =>
    obtain ⟨op, n⟩ := o
    obtain rfl : op = .not := ho
    rw [parseAt_not hb hc, if_pos hn, isOk_map, ← ih, hi]
  | case6 text hb trimmed o hc ho hn =>
    obtain ⟨op, n⟩ := o
    obtain rfl : op = .not := ho
    rw [parseAt_not hb hc, if_neg hn]
    rfl
  | case7 text hb trimmed o hc op ho left hl ih =>
    obtain ⟨op', n⟩ := o
    obtain rfl : op' = .binary op := ho
    rw [parseAt_binary hb hc]
    have h := ih (.operand (.binary op) (Text.trim text))
    rw [hl] at h
    cases hp : parseAt (.operand (.binary op) (Text.trim text))
        (Occurrence.before ⟨.binary op, n⟩ (Text.trim text)) with
    | error e => rfl
    | ok e => rw [hp] at h; cases h
  | case8 text hb trimmed o hc op ho left hl right readable hr ihl ihr =>
    obtain ⟨op', n⟩ := o
    obtain rfl : op' = .binary op := ho
    rw [parseAt_binary hb hc]
    have h1 := ihl (.operand (.binary op) (Text.trim text))
    have h2 := ihr (.operand (.binary op) (Text.trim text))
    rw [hl] at h1
    rw [hr] at h2
    cases hp : parseAt (.operand (.binary op) (Text.trim text))
        (Occurrence.before ⟨.binary op, n⟩ (Text.trim text)) with
    | error e => rw [hp] at h1; cases h1
    | ok l =>
      rw [h2]
      cases hq : parseAt (.operand (.binary op) (Text.trim text))
        (Occurrence.after ⟨.binary op, n⟩ (Text.trim text)) <;> rfl

end DialogGate.Expr
