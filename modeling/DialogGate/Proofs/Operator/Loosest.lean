import DialogGate.Operator.Occurrence

/-! # The operator to cut at

`loosest?_eq_some_iff`: the operator picked is the one that is to be preferred to every operator on
its left (`replaces`) and that none on its right is to be preferred to. What that means for its
precedence depends on the side to which operators of that precedence group
(`replaces_of_precedence_lt`, `replaces_of_laterWins`, `not_replaces_of_precedence_lt`,
`not_replaces_of_firstWins`).
-/

namespace DialogGate

/-- Operators of one precedence group to the same side. -/
theorem Operator.laterWins_congr {a b : Operator} (h : a.precedence = b.precedence) :
    a.laterWins = b.laterWins := by
  rcases a with _ | a <;> rcases b with _ | b
  · rfl
  · cases b <;> simp [precedence, BinaryOp.precedence] at h
  · cases a <;> simp [precedence, BinaryOp.precedence] at h
  · cases a <;> cases b <;> simp [precedence, BinaryOp.precedence] at h <;> rfl

namespace Occurrence

theorem replaces_iff {next best : Occurrence} :
    next.replaces best = true ↔ next.operator.precedence < best.operator.precedence ∨
      next.operator.precedence = best.operator.precedence ∧ next.operator.laterWins = true := by
  simp [replaces]

section
variable {a b c : Occurrence}

theorem replaces_of_precedence_lt (h : a.operator.precedence < b.operator.precedence) :
    a.replaces b = true :=
  replaces_iff.2 (.inl h)

theorem replaces_of_laterWins (h : a.operator.precedence ≤ b.operator.precedence)
    (hw : a.operator.laterWins = true) : a.replaces b = true :=
  replaces_iff.2 ((Nat.lt_or_eq_of_le h).imp id fun he => ⟨he, hw⟩)

theorem not_replaces_of_precedence_lt (h : b.operator.precedence < a.operator.precedence) :
    ¬a.replaces b = true := by
  rw [replaces_iff]
  omega

theorem not_replaces_of_firstWins (h : b.operator.precedence ≤ a.operator.precedence)
    (hw : b.operator.laterWins = false) : ¬a.replaces b = true := by
  rw [replaces_iff]
  rintro (hlt | ⟨he, hl⟩)
  · omega
  · rw [Operator.laterWins_congr he, hw] at hl
    cases hl

theorem precedence_le_of_replaces (h : a.replaces b = true) :
    a.operator.precedence ≤ b.operator.precedence := by
  rcases replaces_iff.1 h with h | h <;> omega

theorem precedence_le_of_not_replaces (h : ¬a.replaces b = true) :
    b.operator.precedence ≤ a.operator.precedence := by
  rw [replaces_iff] at h
  omega

theorem precedence_lt_of_replaces (h : a.replaces b = true) (hw : a.operator.laterWins = false) :
    a.operator.precedence < b.operator.precedence := by
  rcases replaces_iff.1 h with h | ⟨-, hl⟩
  · exact h
  · rw [hw] at hl
    cases hl

theorem precedence_lt_of_not_replaces (h : ¬a.replaces b = true)
    (hw : b.operator.laterWins = true) : b.operator.precedence < a.operator.precedence := by
  have hle := precedence_le_of_not_replaces h
  rw [replaces_iff] at h
  rcases Nat.lt_or_eq_of_le hle with hlt | he
  · exact hlt
  · exact absurd (.inr ⟨he.symm, (Operator.laterWins_congr he).symm.trans hw⟩) h

theorem replaces_trans (h1 : a.replaces b = true) (h2 : b.replaces c = true) :
    a.replaces c = true := by
  have hle := precedence_le_of_replaces h2
  rcases replaces_iff.1 h1 with h | ⟨he, hw⟩
  · exact replaces_of_precedence_lt (by omega)
  · exact replaces_of_laterWins (by omega) hw

/-- What is preferred to `b` is preferred to all that is not preferred to `b`. -/
theorem replaces_of_not_replaces (h1 : a.replaces b = true) (h2 : ¬c.replaces b = true) :
    a.replaces c = true := by
  have hle := precedence_le_of_not_replaces h2
  rcases replaces_iff.1 h1 with h | ⟨he, hw⟩
  · exact replaces_of_precedence_lt (by omega)
  · exact replaces_of_laterWins (by omega) hw

end

theorem loosestFrom_append (best : Occurrence) (xs ys : List Occurrence) :
    loosestFrom best (xs ++ ys) = loosestFrom (loosestFrom best xs) ys := by
  induction xs generalizing best with
  | nil => rfl
  | cons x xs ih =>
    rw [List.cons_append, loosestFrom, loosestFrom, ih]

theorem loosestFrom_eq_self {best : Occurrence} {later : List Occurrence}
    (h : ∀ y ∈ later, ¬y.replaces best = true) : loosestFrom best later = best := by
  induction later with
  | nil => rfl
  | cons next later ih =>
    rw [loosestFrom, if_neg (h next (.head _)), ih fun y hy => h y (.tail _ hy)]

/-- The operator picked among `best` and the later ones, with those on either side of it. -/
theorem loosestFrom_spec (best : Occurrence) (later : List Occurrence) :
    ∃ xs ys, best :: later = xs ++ loosestFrom best later :: ys ∧
      (∀ x ∈ xs, (loosestFrom best later).replaces x = true) ∧
      ∀ y ∈ ys, ¬y.replaces (loosestFrom best later) = true := by
  induction later generalizing best with
  | nil => exact ⟨[], [], rfl, by simp, by simp⟩
  | cons next later ih =>
    rw [loosestFrom]
    by_cases hr : next.replaces best = true
    · -- `best` joins the operators on the left
      rw [if_pos hr]
      obtain ⟨xs, ys, he, hl, hy⟩ := ih next
      refine ⟨best :: xs, ys, by rw [he]; rfl, fun x hx => ?_, hy⟩
      rcases List.mem_cons.1 hx with rfl | hx
      · cases xs with
        | nil => rwa [← (List.cons.inj he).1]
        | cons z xs =>
          have hz := hl z (.head _)
          rw [← (List.cons.inj he).1] at hz
          exact replaces_trans hz hr
      · exact hl x hx
    · rw [if_neg hr]
      obtain ⟨xs, ys, he, hl, hy⟩ := ih best
      cases xs with
      | nil =>
        -- `best` stays, and `next` stands on its right
        obtain ⟨hb, rfl⟩ := List.cons.inj he
        refine ⟨[], next :: later, by rw [← hb]; rfl, by simp, fun y hm => ?_⟩
        rcases List.mem_cons.1 hm with rfl | hm
        · rwa [← hb]
        · exact hy y hm
      | cons z xs =>
        -- `best` loses to an operator further right, and so does `next`
        obtain ⟨rfl, ht⟩ := List.cons.inj he
        refine ⟨best :: next :: xs, ys, congrArg (best :: next :: ·) ht, fun x hx => ?_, hy⟩
        have hb := hl best (.head _)
        rcases List.mem_cons.1 hx with rfl | hx
        · exact hb
        · rcases List.mem_cons.1 hx with rfl | hx
          · exact replaces_of_not_replaces hb hr
          · exact hl x (.tail _ hx)

theorem loosest?_eq_some_iff {found : List Occurrence} {o : Occurrence} :
    loosest? found = some o ↔ ∃ xs ys, found = xs ++ o :: ys ∧
      (∀ x ∈ xs, o.replaces x = true) ∧ ∀ y ∈ ys, ¬y.replaces o = true := by
  constructor
  · intro h
    cases found with
    | nil => cases h
    | cons first later =>
      obtain rfl := Option.some.inj h
      exact loosestFrom_spec first later
  · rintro ⟨xs, ys, rfl, hx, hy⟩
    cases xs with
    | nil => rw [List.nil_append, loosest?, loosestFrom_eq_self hy]
    | cons x xs =>
      -- `o` takes the place of whatever was the best before it
      rw [List.cons_append, loosest?, loosestFrom_append, loosestFrom,
        if_pos (hx _ (loosestFrom_mem x xs)), loosestFrom_eq_self hy]

end Occurrence

end DialogGate
