import DialogGate.Proofs.Expr.Sentence

/-! # The literals of a tree

`Expr.numbers` are the numbers that a tree has as literals, and `Expr.indices` the trees that it has
as indices of variables. A tree that is read from text has only numbers that digits stand for
(`numbers_of_ofText`), and every index is such a number without a sign and a point
(`indices_of_ofText`).
-/

namespace DialogGate

namespace Expr

/-- All number literals, those of indices included. -/
def numbers : Expr → List Binary64
  | boolean _ => []
  | number x => [x]
  | lookup index => index.numbers
  | not operand => operand.numbers
  | binary _ left right => left.numbers ++ right.numbers

/-- The index of every variable. -/
def indices : Expr → List Expr
  | boolean _ | number _ => []
  | lookup index => index :: index.indices
  | not operand => operand.indices
  | binary _ left right => left.indices ++ right.indices

theorem mem_numbers_of_mem_indices {e : Expr} {x : Binary64} (h : number x ∈ e.indices) :
    x ∈ e.numbers := by
  induction e with
  | boolean | number => cases h
  | lookup index ih =>
    rcases List.mem_cons.1 h with rfl | h
    · exact .head _
    · exact ih h
  | not operand ih => exact ih h
  | binary op left right ihl ihr =>
    rcases List.mem_append.1 h with h | h
    · exact List.mem_append_left _ (ihl h)
    · exact List.mem_append_right _ (ihr h)

end Expr

namespace Grammar

theorem Derives.numbers {l : Level} {t : Text} {e : Expr} (h : Derives l t e) :
    ∀ x ∈ e.numbers, ∃ negative w f, Text.IsDigits (w ++ f) ∧ x = literal negative w f := by
  induction h with
  | tighter _ _ ih => exact ih
  | left _ _ _ _ _ _ iha ihb | power _ _ _ _ iha ihb => exact List.forall_mem_append.2 ⟨iha, ihb⟩
  | signed _ hu | number hu =>
    intro x hx
    exact ⟨_, _, _, hu.isDigits, List.mem_singleton.1 hx⟩
  | not _ _ ih => exact ih
  | boolean b =>
    intro x hx
    cases hx
  | lookup _ _ hd =>
    intro x hx
    exact ⟨_, _, [], by rwa [List.append_nil], List.mem_singleton.1 hx⟩
  | group _ _ _ ih => exact ih

theorem Derives.indices {l : Level} {t : Text} {e : Expr} (h : Derives l t e) :
    ∀ i ∈ e.indices, ∃ digits, digits ≠ [] ∧ Text.IsDigits digits ∧
      i = .number (literal false digits []) := by
  induction h with
  | tighter _ _ ih => exact ih
  | left _ _ _ _ _ _ iha ihb | power _ _ _ _ iha ihb => exact List.forall_mem_append.2 ⟨iha, ihb⟩
  | signed | boolean | number =>
    intro i hi
    cases hi
  | not _ _ ih => exact ih
  | lookup _ hne hd =>
    intro i hi
    exact ⟨_, hne, hd, List.mem_singleton.1 hi⟩
  | group _ _ _ ih => exact ih

end Grammar

open Grammar

namespace Expr

variable {raw : Text} {e : Expr}

theorem numbers_of_ofText (h : ofText raw = .ok e) :
    ∀ x ∈ e.numbers, ∃ negative w f, Text.IsDigits (w ++ f) ∧ x = literal negative w f := by
  obtain ⟨pre, t, post, -, -, -, hd⟩ := sentence_of_ofText h
  exact hd.numbers

theorem indices_of_ofText (h : ofText raw = .ok e) :
    ∀ i ∈ e.indices, ∃ digits, digits ≠ [] ∧ Text.IsDigits digits ∧
      i = .number (literal false digits []) := by
  obtain ⟨pre, t, post, -, -, -, hd⟩ := sentence_of_ofText h
  exact hd.indices

end Expr

end DialogGate
