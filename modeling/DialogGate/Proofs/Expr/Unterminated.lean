import DialogGate.Proofs.Expr.Sentence
import DialogGate.Proofs.Operator.Unclosed

/-! # Unterminated parentheses

Reading a condition repeats the search for operators in ever smaller parts of it, and each of these
searches could meet a `(` that is never closed. Only the first one can (`parseAt_of_closed`, by
induction on the cuts): if every `(` of a text is closed, the same holds of the sides of an operator
outside parentheses and of what stands between the outermost ones (`Cut.closed_of_eq_split`,
`Cut.closed_of_eq_group`). So the error is about the whole condition, and whatever else is wrong
with the condition, this error comes first.
-/

namespace DialogGate

open Occurrence

/-- Every `(` is closed. -/
def Closed (text : Text) : Prop := ∀ i, ¬Unclosed text i

theorem BindsFrom.closed {n : Nat} {text : Text} (h : BindsFrom n text) : Closed text := by
  obtain ⟨found, hf, -⟩ := h
  have hreports := reports_outside text
  rw [hf] at hreports
  exact hreports

theorem Closed.bindsFrom {text : Text} (h : Closed text) : BindsFrom 0 text := by
  have hreports := reports_outside text
  cases ho : outside 0 text with
  | ok found => exact ⟨found, ho, fun o _ => Nat.zero_le _⟩
  | error position =>
    rw [ho] at hreports
    exact absurd hreports.1 (h position)

theorem Closed.trim {text : Text} (h : Closed text) : Closed (Text.trim text) :=
  h.bindsFrom.trim.closed

theorem Unclosed.exists_first {text : Text} {i : Nat} (h : Unclosed text i) :
    ∃ first, Unclosed text first ∧ ∀ j < first, ¬Unclosed text j := by
  have hreports := reports_outside text
  cases ho : outside 0 text with
  | ok found =>
    rw [ho] at hreports
    exact absurd h (hreports i)
  | error first =>
    rw [ho] at hreports
    exact ⟨first, hreports⟩

namespace Cut

variable {text inner : Text} {position : Nat} {e : ParseError}

theorem literal?_eq_error (h : literal? text = some (.error e)) : e = .unreadable text := by
  unfold literal? at h
  split at h
  · cases h
  split at h
  · cases h
  obtain ⟨n, -, hn⟩ := Option.map_eq_some_iff.1 h
  split at hn
  · cases hn
  · exact (Except.error.inj hn).symm

theorem reference_eq_error (h : reference text = .error e) : ∃ part, e = .unreadable part := by
  unfold reference at h
  split at h
  · split at h
    · cases h
    · exact ⟨_, (Except.error.inj h).symm⟩
  · exact ⟨_, (Except.error.inj h).symm⟩

/-- Everything that can keep a text from being cut. -/
theorem of_error_cases (h : of text = .error e) :
    (∃ part, e = .unreadable part) ∨
      ∃ position, e = .unterminated text position ∧ outside 0 text = .error position := by
  unfold of at h
  split at h
  · next r hl =>
    cases r with
    | ok x => cases h
    | error err =>
      obtain rfl := Except.error.inj h
      exact .inl ⟨text, literal?_eq_error hl⟩
  split at h
  · cases h
  split at h
  · next position ho => exact .inr ⟨position, (Except.error.inj h).symm, ho⟩
  · split at h
    · cases h
    · cases hr : reference text with
      | ok x =>
        rw [hr] at h
        cases h
      | error err =>
        rw [hr] at h
        obtain rfl := Except.error.inj h
        exact .inl (reference_eq_error hr)

/-- Neither a literal nor a group in parentheses keeps an unclosed `(` from being found. -/
theorem of_eq_unterminated (h : outside 0 text = .error position) :
    of text = .error (.unterminated text position) := by
  have hl : literal? text = none := by
    cases hl : literal? text with
    | none => rfl
    | some r =>
      rcases literal?_outside hl with ho | ⟨op, -, -, ho⟩ <;> rw [h] at ho <;> cases ho
  have hg : group? text = none := by
    cases hg : group? text with
    | none => rfl
    | some inner =>
      have ho := group?_outside hg
      rw [h] at ho
      cases ho
  rw [of, hl]
  simp only [hg, h]

theorem closed_of_eq_group (h : of text = .ok (group inner)) : Closed inner := by
  rcases of_cases h with ⟨e, he, -⟩ | ⟨inner', hi, hg⟩ | ⟨found, -, ⟨o, ho, -⟩ | ⟨e, he, -⟩⟩
  · cases he
  · obtain rfl := group.inj hi
    have ht := eq_of_group? hg
    unfold group? at hg
    split at hg
    · next rest =>
      obtain ⟨hclose, -⟩ := Option.ite_none_right_eq_some.1 hg
      have hrest : rest = inner ++ [')'] := (List.cons.inj ht).2
      rw [ht, hrest, List.length_append] at hclose
      exact not_unclosed_of_enclosed hclose
    · cases hg
  · cases ho
  · cases he

theorem closed_of_eq_split {o : Occurrence} (h : of text = .ok (split o)) :
    Closed (o.before text) ∧ Closed (o.after text) := by
  obtain ⟨left, right, -, hbefore, hafter, hleft, hright, -⟩ := of_eq_split_parts h
  rw [hbefore, hafter]
  exact ⟨hleft.closed, hright.closed⟩

end Cut

namespace Expr

/-- If every `(` is closed, no part of the text that is read is found to have one that is not. -/
theorem parseAt_of_closed {place : Place} {text expression : Text} {position : Nat}
    (h : Closed (Text.trim text)) :
    parseAt place text ≠ .error (.unterminated expression position) := by
  intro he
  fun_induction parseAt place text with
  | case1 place text hb => cases place <;> cases he
  | case2 place text hb t e hc =>
    obtain rfl := Except.error.inj he
    rcases Cut.of_error_cases hc with ⟨part, hp⟩ | ⟨position', hp, ho⟩
    · cases hp
    · obtain ⟨found, hf, -⟩ := h.bindsFrom
      rw [ho] at hf
      cases hf
  | case3 => cases he
  | case4 place text hb t inner hc ih => exact ih (Cut.closed_of_eq_group hc).trim he
  | case5 place text hb t o hc ho hn ih =>
    cases hx : parseAt (.operand .not t) (o.after t) with
    | ok x =>
      rw [hx] at he
      cases he
    | error e =>
      rw [hx] at he
      exact ih (Cut.closed_of_eq_split hc).2.trim (hx.trans he)
  | case6 => cases he
  | case7 place text hb t o hc op ho ihl ihr =>
    obtain ⟨hleft, hright⟩ := Cut.closed_of_eq_split hc
    cases hx : parseAt (.operand (.binary op) t) (o.before t) with
    | error e =>
      rw [hx] at he
      exact ihl hleft.trim (hx.trans he)
    | ok x =>
      cases hy : parseAt (.operand (.binary op) t) (o.after t) with
      | error e =>
        rw [hx, hy] at he
        exact ihr hright.trim (hy.trans he)
      | ok y =>
        rw [hx, hy] at he
        cases he

theorem parseAt_eq_unterminated_iff {place : Place} {text expression : Text} {position : Nat} :
    parseAt place text = .error (.unterminated expression position) ↔
      expression = Text.trim text ∧ Unclosed (Text.trim text) position ∧
        ∀ i < position, ¬Unclosed (Text.trim text) i := by
  have hreports := reports_outside (Text.trim text)
  cases ho : outside 0 (Text.trim text) with
  | ok found =>
    rw [ho] at hreports
    refine iff_of_false (parseAt_of_closed hreports) ?_
    rintro ⟨-, hu, -⟩
    exact hreports position hu
  | error first =>
    rw [ho] at hreports
    obtain ⟨hu, hfirst⟩ := hreports
    have hb : ¬Text.isBlank text = true := by
      intro hblank
      obtain ⟨k, hk⟩ := outside_trim text
      rw [outside_inert (inert_of_isBlank hblank), ho] at hk
      cases hk
    rw [parseAt_error hb (Cut.of_eq_unterminated ho)]
    constructor
    · intro he
      obtain ⟨rfl, rfl⟩ := ParseError.unterminated.inj (Except.error.inj he)
      exact ⟨rfl, hu, hfirst⟩
    · rintro ⟨rfl, hu', hfirst'⟩
      have hge : first ≤ position := Nat.not_lt.1 fun hlt => hfirst position hlt hu'
      have hle : position ≤ first := Nat.not_lt.1 fun hlt => hfirst' first hlt hu
      rw [Nat.le_antisymm hge hle]

/-- A condition is reported as unterminated if and only if some `(` in it is never closed; the
report shows the whole condition, trimmed and with the keyword `not` as an operator, and the place
of the first such `(`. -/
theorem ofText_unterminated_exact (raw : Text) :
    ((∃ expression position, ofText raw = .error (.unterminated expression position)) ↔
      ∃ i, Unclosed (Text.trim (Text.spellNot raw)) i) ∧
    ∀ expression position, ofText raw = .error (.unterminated expression position) ↔
      expression = Text.trim (Text.spellNot raw) ∧
        Unclosed (Text.trim (Text.spellNot raw)) position ∧
        ∀ i < position, ¬Unclosed (Text.trim (Text.spellNot raw)) i := by
  unfold ofText
  refine ⟨⟨?_, ?_⟩, fun expression position => parseAt_eq_unterminated_iff⟩
  · rintro ⟨expression, position, he⟩
    obtain ⟨-, hu, -⟩ := parseAt_eq_unterminated_iff.1 he
    exact ⟨position, hu⟩
  · rintro ⟨i, hu⟩
    obtain ⟨first, hfirst⟩ := hu.exists_first
    exact ⟨_, first, parseAt_eq_unterminated_iff.2 ⟨rfl, hfirst⟩⟩

end Expr

end DialogGate
