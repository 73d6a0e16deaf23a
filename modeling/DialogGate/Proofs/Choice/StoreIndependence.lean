import DialogGate.Proofs.Choice.Resolution
import DialogGate.Proofs.Expr.Literals

/-! # Broken conditions are broken for every store

`Expr.eval_type_congr`: in a tree whose variables have numbers as indices, what the evaluation
comes to (an error, or a value of some type) is the same for all stores. A number is an index or
not whatever the variables are, every variable holds a number, and no operator looks at more than
the types of its operands before it fails.

Conditions that are read from text are such trees, so their diagnostics do not depend on the store
(`diagnostics_agree`), except that a condition that is a number is reported with that number.
-/

namespace DialogGate

/-! ## Evaluation -/

section
variable {ε α β γ : Type} {f : α → γ} {g : β → γ}

/-- Two steps that agree, one after the other. -/
theorem Except.map_bind_congr {x y : Except ε α} {p q : α → Except ε β} (h : x.map f = y.map f)
    (hpq : ∀ a b, f a = f b → (p a).map g = (q b).map g) : (x >>= p).map g = (y >>= q).map g := by
  cases x with
  | error e =>
    cases y with
    | error e' =>
      obtain rfl : e = e' := Except.error.inj h
      rfl
    | ok b => cases h
  | ok a =>
    cases y with
    | error e' => cases h
    | ok b => exact hpq a b (Except.ok.inj h)

theorem Except.map_eq_map_iff {x y : Except ε α} : x.map f = y.map f ↔
    (∃ e, x = .error e ∧ y = .error e) ∨ ∃ a b, x = .ok a ∧ y = .ok b ∧ f a = f b := by
  cases x <;> cases y <;> simp [Except.map, eq_comm]

end

theorem Value.negate_type_congr {v w : Value} (h : v.type = w.type) :
    v.negate.map Value.type = w.negate.map Value.type := by
  cases v with
  | boolean a =>
    cases w with
    | boolean b => rfl
    | number y => cases h
  | number x =>
    cases w with
    | boolean b => cases h
    | number y => rfl

variable (store store' : Store)

theorem Value.lookupIn_type_congr (v : Value) :
    (v.lookupIn store).map Value.type = (v.lookupIn store').map Value.type := by
  cases v with
  | boolean b => rfl
  | number x =>
    rw [lookupIn, lookupIn]
    cases indexOf? x <;> rfl

/-- Whether a tree has a value, why it has none, and the type of the value do not depend on the
store, if every index is a literal. -/
theorem Expr.eval_type_congr {e : Expr} (h : ∀ i ∈ e.indices, ∃ x, i = .number x) :
    (e.eval store).map Value.type = (e.eval store').map Value.type := by
  induction e with
  | boolean b => rfl
  | number x => rfl
  | lookup index =>
    -- the index has the same value in both stores, not only one of the same type
    obtain ⟨x, rfl⟩ := h index (.head _)
    exact Value.lookupIn_type_congr store store' (.number x)
  | not operand ih =>
    exact Except.map_bind_congr (ih h) fun v w hvw => Value.negate_type_congr hvw
  | binary op left right ihl ihr =>
    have hl := ihl fun i hi => h i (List.mem_append_left _ hi)
    have hr := ihr fun i hi => h i (List.mem_append_right _ hi)
    refine Except.map_bind_congr hl fun a a' ha => ?_
    exact Except.map_bind_congr hr fun b b' hb => op.apply_type_congr ha hb

/-- A condition that is read has an error for all stores, or a value of one type for all stores. -/
theorem Expr.eval_agree {raw : Text} {e : Expr} (h : ofText raw = .ok e) :
    (∃ x, e.eval store = .error x ∧ e.eval store' = .error x) ∨
      ∃ v w, e.eval store = .ok v ∧ e.eval store' = .ok w ∧ v.type = w.type := by
  refine Except.map_eq_map_iff.1 (eval_type_congr store store' fun i hi => ?_)
  obtain ⟨digits, -, -, hi⟩ := indices_of_ofText h i hi
  exact ⟨_, hi⟩

/-! ## Diagnostics -/

/-- The same error, up to the number that was found in the place of a boolean. -/
inductive ConditionError.Agree : ConditionError → ConditionError → Prop where
  | same (e : ConditionError) : Agree e e
  | number (x y : Binary64) : Agree (.notACondition (.number x)) (.notACondition (.number y))

/-- The same condition at the same place, with errors that agree. -/
structure Diagnostic.Agree (a b : Diagnostic) : Prop where
  index : a.index = b.index
  kind : a.kind = b.kind
  condition : a.condition = b.condition
  error : ConditionError.Agree a.error b.error

theorem Condition.check_agree (raw : Text) :
    (∃ b b', check store raw = .ok b ∧ check store' raw = .ok b') ∨
      ∃ x y, check store raw = .error x ∧ check store' raw = .error y ∧
        ConditionError.Agree x y := by
  unfold check
  cases hp : Expr.ofText raw with
  | error e => exact .inr ⟨_, _, rfl, rfl, .same _⟩
  | ok e =>
    dsimp only
    rcases Expr.eval_agree store store' hp with ⟨x, hx, hy⟩ | ⟨v, w, hv, hw, ht⟩
    · exact .inr ⟨_, _, by rw [hx], by rw [hy], .same _⟩
    · cases v with
      | boolean b =>
        cases w with
        | boolean b' => exact .inl ⟨b, b', by rw [hv]; rfl, by rw [hw]; rfl⟩
        | number y => cases ht
      | number x =>
        cases w with
        | boolean b' => cases ht
        | number y => exact .inr ⟨_, _, by rw [hv]; rfl, by rw [hw]; rfl, .number x y⟩

theorem Extracted.failure?_agree (e : Extracted) (index : Nat) (kind : Kind) :
    Option.Rel Diagnostic.Agree (e.failure? store index kind) (e.failure? store' index kind) := by
  unfold failure?
  cases e.condition? kind with
  | none => exact .none
  | some raw =>
    rw [Option.bind_some, Option.bind_some]
    rcases Condition.check_agree store store' raw with ⟨b, b', hb, hb'⟩ | ⟨x, y, hx, hy, hxy⟩
    · rw [hb, hb']
      exact .none
    · rw [hx, hy]
      exact .some ⟨rfl, rfl, rfl, hxy⟩

variable (markers : Markers)

theorem Diagnostic.ofLabel_agree (index : Nat) (label : Text) :
    List.Forall₂ Diagnostic.Agree (ofLabel markers store index label)
      (ofLabel markers store' index label) := by
  have hk : List.Forall₂ Eq [Kind.disable, Kind.hide] [Kind.disable, Kind.hide] :=
    List.forall₂_refl _
  refine List.rel_filterMap ?_ hk
  rintro kind _ rfl
  exact Extracted.failure?_agree store store' (Label.extract markers label) index kind

namespace Resolution

theorem diagnostics_agree (labels : List Text) :
    List.Forall₂ Diagnostic.Agree (of markers store labels).diagnostics
      (of markers store' labels).diagnostics := by
  rw [of, of, onto_diagnostics, onto_diagnostics, List.nil_append, List.nil_append]
  have hl : List.Forall₂ Eq labels.zipIdx labels.zipIdx := List.forall₂_refl _
  refine List.rel_flatMap hl ?_
  rintro ⟨label, i⟩ _ rfl
  exact Diagnostic.ofLabel_agree store store' markers i label

/-- Which conditions are broken does not depend on the variables. -/
theorem failures_independent :
    (∀ labels, List.Forall₂ Diagnostic.Agree (of markers store labels).diagnostics
      (of markers store' labels).diagnostics) ∧
    ∀ raw e, Expr.ofText raw = .ok e →
      (∃ x, e.eval store = .error x ∧ e.eval store' = .error x) ∨
        ∃ v w, e.eval store = .ok v ∧ e.eval store' = .ok w ∧ v.type = w.type := by
  constructor
  · intro labels
    exact diagnostics_agree store store' markers labels
  · intro raw e h
    exact Expr.eval_agree store store' h

end Resolution

end DialogGate
