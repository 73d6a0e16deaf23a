import DialogGate.Eval

/-! # The first error of an evaluation

`Expr.nodes` lists the nodes of a tree (`length_nodes`) in the order of evaluation: from left to
right, each one behind its children. A node fails if all its children have values and it makes an
error of them (`FailsAt`); which values it does not take is said by `Refuses`
(`failsAt_iff_refuses`).

An evaluation stops at the first node that fails (`eval_eq_error_iff`, by induction on the tree): the
nodes of an operand stand in front of the node itself, so an error in any of them comes first. No
operator hides an error of one of its operands; in particular, conjunction and disjunction do not.
-/

namespace DialogGate

section
variable {ε α β : Type} {a : Except ε α} {f : α → Except ε β}

theorem Except.bind_eq_ok_iff {b : β} :
    (a >>= f) = .ok b ↔ ∃ v, a = .ok v ∧ f v = .ok b := by
  cases a <;> simp [bind, Except.bind]

theorem Except.bind_eq_error_iff {e : ε} :
    (a >>= f) = .error e ↔ a = .error e ∨ ∃ v, a = .ok v ∧ f v = .error e := by
  cases a <;> simp [bind, Except.bind]

end

/-! ## What an operator takes -/

namespace BinaryOp

/-- The types of operands that an operator has a result for. -/
def Takes : BinaryOp → ValueType → ValueType → Prop
  | or, s, t | and, s, t => s = .boolean ∧ t = .boolean
  | equal, _, _ | notEqual, _, _ => True
  | _, s, t => s = .number ∧ t = .number

theorem apply_eq_error_iff {op : BinaryOp} {a b : Value} {x : EvalError} :
    op.apply a b = .error x ↔ ¬op.Takes a.type b.type ∧ x = .typeMismatch op a.type b.type := by
  cases op <;> cases a <;> cases b <;>
    simp [apply, Takes, onNumbers, onBooleans, Value.type, eq_comm]

end BinaryOp

namespace Value

variable {v : Value} {x : EvalError} {store : Store}

theorem negate_eq_error_iff :
    v.negate = .error x ↔ v.type = .number ∧ x = .notBoolean .number := by
  cases v <;> simp [negate, type, eq_comm]

theorem lookupIn_eq_error_iff : v.lookupIn store = .error x ↔
    v.type = .boolean ∧ x = .nonNumericIndex .boolean ∨
      ∃ y, v = .number y ∧ indexOf? y = none ∧ x = .invalidIndex y := by
  cases v with
  | boolean b => simp [lookupIn, type, eq_comm]
  | number y =>
    cases hy : indexOf? y <;> simp [lookupIn, type, hy, eq_comm]

end Value

namespace Expr

/-- The nodes of a tree, each as the tree below it: from left to right, a node behind its
children. -/
def nodes : Expr → List Expr
  | boolean b => [boolean b]
  | number x => [number x]
  | lookup index => index.nodes ++ [lookup index]
  | not operand => operand.nodes ++ [not operand]
  | binary op left right => left.nodes ++ right.nodes ++ [binary op left right]

theorem length_nodes (e : Expr) : e.nodes.length = e.size := by
  induction e with
  | boolean | number => rfl
  | lookup index ih | not operand ih =>
    rw [nodes, List.length_append, ih, size, List.length_singleton, Nat.add_comm]
  | binary op left right ihl ihr =>
    rw [nodes, List.length_append, List.length_append, ihl, ihr, size, List.length_singleton,
      Nat.add_comm, Nat.add_assoc]

variable (store : Store)

/-- The tree is evaluated without an error. -/
def HasValue (e : Expr) : Prop := ∃ v, e.eval store = .ok v

/-- The children of the node have values, and the node makes an error of them. -/
inductive FailsAt : Expr → EvalError → Prop
  | lookup {index : Expr} {v : Value} {x : EvalError} : index.eval store = .ok v →
      v.lookupIn store = .error x → FailsAt (lookup index) x
  | not {operand : Expr} {v : Value} {x : EvalError} : operand.eval store = .ok v →
      v.negate = .error x → FailsAt (not operand) x
  | binary {op : BinaryOp} {left right : Expr} {a b : Value} {x : EvalError} :
      left.eval store = .ok a → right.eval store = .ok b → op.apply a b = .error x →
      FailsAt (binary op left right) x

/-- The children of the node have values that it does not take. -/
inductive Refuses : Expr → EvalError → Prop
  | booleanIndex {index : Expr} {b : Bool} : index.eval store = .ok (.boolean b) →
      Refuses (lookup index) (.nonNumericIndex .boolean)
  | invalidIndex {index : Expr} {y : Binary64} : index.eval store = .ok (.number y) →
      indexOf? y = none → Refuses (lookup index) (.invalidIndex y)
  | negatedNumber {operand : Expr} {y : Binary64} : operand.eval store = .ok (.number y) →
      Refuses (not operand) (.notBoolean .number)
  | mismatch {op : BinaryOp} {left right : Expr} {a b : Value} : left.eval store = .ok a →
      right.eval store = .ok b → ¬op.Takes a.type b.type →
      Refuses (binary op left right) (.typeMismatch op a.type b.type)

variable {store} {e : Expr} {x : EvalError}

theorem failsAt_iff_refuses : e.FailsAt store x ↔ e.Refuses store x := by
  constructor
  · intro h
    cases h with
    | @lookup index v x hi hx =>
      rcases Value.lookupIn_eq_error_iff.1 hx with ⟨ht, rfl⟩ | ⟨y, rfl, hy, rfl⟩
      · cases v with
        | boolean b => exact .booleanIndex hi
        | number y => cases ht
      · exact .invalidIndex hi hy
    | @not operand v x ho hx =>
      obtain ⟨ht, rfl⟩ := Value.negate_eq_error_iff.1 hx
      cases v with
      | boolean b => cases ht
      | number y => exact .negatedNumber ho
    | binary hl hr hx =>
      obtain ⟨ht, rfl⟩ := BinaryOp.apply_eq_error_iff.1 hx
      exact .mismatch hl hr ht
  · intro h
    cases h with
    | booleanIndex hi => exact .lookup hi rfl
    | invalidIndex hi hy => exact .lookup hi (Value.lookupIn_eq_error_iff.2 (.inr ⟨_, rfl, hy, rfl⟩))
    | negatedNumber ho => exact .not ho rfl
    | mismatch hl hr ht => exact .binary hl hr (BinaryOp.apply_eq_error_iff.2 ⟨ht, rfl⟩)

/-! ## Lists of nodes -/

variable (store) in
/-- Of the nodes, one fails, and all those before it have values. -/
def Stops (l : List Expr) (x : EvalError) : Prop :=
  ∃ before n after, l = before ++ n :: after ∧ (∀ m ∈ before, m.HasValue store) ∧
    n.FailsAt store x

theorem stops_singleton : Stops store [e] x ↔ e.FailsAt store x := by
  constructor
  · rintro ⟨before, n, after, hl, -, hn⟩
    cases before with
    | nil => simp_all
    | cons m before => simp at hl
  · intro h
    exact ⟨[], e, [], rfl, by simp, h⟩

theorem stops_append {a b : List Expr} : Stops store (a ++ b) x ↔
    Stops store a x ∨ (∀ m ∈ a, m.HasValue store) ∧ Stops store b x := by
  constructor
  · rintro ⟨before, n, after, hl, hbefore, hn⟩
    rcases List.append_eq_append_iff.1 hl with ⟨rest, rfl, hb⟩ | ⟨rest, rfl, hb⟩
    · refine .inr ⟨fun m hm => hbefore m (by simp [hm]), rest, n, after, hb, ?_, hn⟩
      exact fun m hm => hbefore m (by simp [hm])
    · cases rest with
      | nil =>
        refine .inr ⟨by simpa using hbefore, [], n, after, by simpa using hb.symm, by simp, hn⟩
      | cons n' rest =>
        obtain ⟨rfl, rfl⟩ := List.cons.inj hb
        exact .inl ⟨before, n, rest, rfl, hbefore, hn⟩
  · rintro (⟨before, n, after, rfl, hbefore, hn⟩ | ⟨ha, before, n, after, rfl, hbefore, hn⟩)
    · exact ⟨before, n, after ++ b, by simp, hbefore, hn⟩
    · refine ⟨a ++ before, n, after, by simp, fun m hm => ?_, hn⟩
      rcases List.mem_append.1 hm with hm | hm
      · exact ha m hm
      · exact hbefore m hm

/-- A node comes last, and it can only fail if all that stands before it has values. -/
theorem stops_node {below : List Expr} (h : e.FailsAt store x → ∀ m ∈ below, m.HasValue store) :
    Stops store (below ++ [e]) x ↔ Stops store below x ∨ e.FailsAt store x := by
  rw [stops_append, stops_singleton, and_iff_right_of_imp h]

/-! ## Along the tree -/

theorem mem_nodes_self (e : Expr) : e ∈ e.nodes := by
  cases e <;> simp [nodes]

theorem eval_lookup_eq_error_iff : (lookup e).eval store = .error x ↔
    e.eval store = .error x ∨ (lookup e).FailsAt store x := by
  rw [eval, Except.bind_eq_error_iff]
  refine or_congr_right ⟨fun ⟨v, hv, hx⟩ => .lookup hv hx, fun h => ?_⟩
  cases h with
  | lookup hv hx => exact ⟨_, hv, hx⟩

theorem eval_not_eq_error_iff : (not e).eval store = .error x ↔
    e.eval store = .error x ∨ (not e).FailsAt store x := by
  rw [eval, Except.bind_eq_error_iff]
  refine or_congr_right ⟨fun ⟨v, hv, hx⟩ => .not hv hx, fun h => ?_⟩
  cases h with
  | not hv hx => exact ⟨_, hv, hx⟩

/-- The left operand comes first, then the right one, then the operator. -/
theorem eval_binary_eq_error_iff {op : BinaryOp} {left right : Expr} :
    (binary op left right).eval store = .error x ↔
      (left.eval store = .error x ∨ left.HasValue store ∧ right.eval store = .error x) ∨
        (binary op left right).FailsAt store x := by
  simp only [eval, Except.bind_eq_error_iff, HasValue]
  constructor
  · rintro (hl | ⟨a, ha, hr | ⟨b, hb, hx⟩⟩)
    · exact .inl (.inl hl)
    · exact .inl (.inr ⟨⟨a, ha⟩, hr⟩)
    · exact .inr (.binary ha hb hx)
  · rintro ((hl | ⟨⟨a, ha⟩, hr⟩) | h)
    · exact .inl hl
    · exact .inr ⟨a, ha, .inl hr⟩
    · cases h with
      | binary ha hb hx => exact .inr ⟨_, ha, .inr ⟨_, hb, hx⟩⟩

/-- A tree with a value has no node without one. -/
theorem hasValue_iff : e.HasValue store ↔ ∀ n ∈ e.nodes, n.HasValue store := by
  refine ⟨fun h => ?_, fun h => h e e.mem_nodes_self⟩
  have hself := h
  obtain ⟨v, hv⟩ := h
  induction e generalizing v with
  | boolean | number => simpa [nodes] using hself
  | lookup index ih | not operand ih =>
    obtain ⟨w, hw, -⟩ := Except.bind_eq_ok_iff.1 hv
    intro n hn
    rcases List.mem_append.1 hn with hn | hn
    · exact ih ⟨w, hw⟩ w hw n hn
    · exact List.mem_singleton.1 hn ▸ hself
  | binary op left right ihl ihr =>
    obtain ⟨a, ha, hv⟩ := Except.bind_eq_ok_iff.1 hv
    obtain ⟨b, hb, -⟩ := Except.bind_eq_ok_iff.1 hv
    intro n hn
    simp only [nodes, List.mem_append, List.mem_singleton] at hn
    rcases hn with (hn | hn) | rfl
    · exact ihl ⟨a, ha⟩ a ha n hn
    · exact ihr ⟨b, hb⟩ b hb n hn
    · exact hself

/-- An evaluation stops at the first node that fails. -/
theorem eval_eq_error_iff : e.eval store = .error x ↔ Stops store e.nodes x := by
  induction e with
  | boolean b =>
    rw [nodes, stops_singleton]
    exact iff_of_false (by simp [eval]) (by rintro ⟨⟩)
  | number y =>
    rw [nodes, stops_singleton]
    exact iff_of_false (by simp [eval]) (by rintro ⟨⟩)
  | lookup index ih =>
    have hbelow (h : (lookup index).FailsAt store x) : ∀ m ∈ index.nodes, m.HasValue store := by
      cases h with
      | lookup hv _ => exact hasValue_iff.1 ⟨_, hv⟩
    rw [nodes, stops_node hbelow, ← ih, eval_lookup_eq_error_iff]
  | not operand ih =>
    have hbelow (h : (not operand).FailsAt store x) : ∀ m ∈ operand.nodes, m.HasValue store := by
      cases h with
      | not hv _ => exact hasValue_iff.1 ⟨_, hv⟩
    rw [nodes, stops_node hbelow, ← ih, eval_not_eq_error_iff]
  | binary op left right ihl ihr =>
    have hbelow (h : (binary op left right).FailsAt store x) :
        ∀ m ∈ left.nodes ++ right.nodes, m.HasValue store := by
      cases h with
      | binary hl hr _ =>
        exact List.forall_mem_append.2 ⟨hasValue_iff.1 ⟨_, hl⟩, hasValue_iff.1 ⟨_, hr⟩⟩
    rw [nodes, stops_node hbelow, stops_append, ← ihl, ← ihr, ← hasValue_iff,
      eval_binary_eq_error_iff]

/-- An evaluation ends with an error if and only if some node fails on the values of its children
and all nodes before it have values; so a tree has a value exactly if all its nodes have. No
operator, and so neither conjunction nor disjunction, hides an error of one of its operands. -/
theorem eval_first_error (store : Store) (e : Expr) :
    (∀ x, e.eval store = .error x ↔ ∃ before n after, e.nodes = before ++ n :: after ∧
      (∀ m ∈ before, m.HasValue store) ∧ n.FailsAt store x) ∧
    (e.HasValue store ↔ ∀ n ∈ e.nodes, n.HasValue store) ∧
    (∀ (n : Expr) x, n.FailsAt store x ↔ n.Refuses store x) ∧
    ∀ op (other : Expr) x, e.eval store = .error x →
      (binary op e other).eval store = .error x ∧
      (other.HasValue store → (binary op other e).eval store = .error x) := by
  refine ⟨fun x => eval_eq_error_iff, hasValue_iff, fun n x => failsAt_iff_refuses, ?_⟩
  intro op other x he
  exact ⟨eval_binary_eq_error_iff.2 (.inl (.inl he)),
    fun ho => eval_binary_eq_error_iff.2 (.inl (.inr ⟨ho, he⟩))⟩

/-- In `false && !1` the left operand does not hide that a number cannot be negated. -/
theorem eval_first_error_and :
    (binary .and (boolean false) (not (number (.ofNat 1)))).eval .zero =
      .error (.notBoolean .number) :=
  ((eval_first_error .zero (not (number (.ofNat 1)))).2.2.2 .and (boolean false) _ rfl).2 ⟨_, rfl⟩

end Expr

end DialogGate
