import DialogGate.Operator.Basic

/-! # Operators outside parentheses

`outside` lists the operators of a text that stand outside every parenthesis, with their offsets:
it reads from left to right, jumps from each `(` to behind the `)` that closes it, takes a spelling
of two characters before one of a single character, and passes over everything else. A `(` that is
never closed ends it with that offset. `loosest?` picks the operator that a text is cut at.

* `outside_bounds`: every operator found lies inside the text.
* `loosest?_mem`: the operator picked is one of the given ones.
-/

namespace DialogGate

/-- The offset of the `)` at which all open parentheses are closed, of which `depth` stand before
the text. -/
def closingFrom (depth : Nat) : Text → Option Nat
  | [] => none
  | '(' :: rest => (closingFrom (depth + 1) rest).map (· + 1)
  | ')' :: rest => if depth = 1 then some 0 else (closingFrom (depth - 1) rest).map (· + 1)
  | _ :: rest => (closingFrom depth rest).map (· + 1)

/-- The offset of the `)` that closes the first `(` of a text. -/
def closing? (text : Text) : Option Nat := closingFrom 0 text

theorem closingFrom_lt {depth : Nat} {text : Text} {n : Nat}
    (h : closingFrom depth text = some n) : n < text.length := by
  fun_induction closingFrom depth text generalizing n with
  | case1 => simp at h
  | case2 depth rest ih =>
    obtain ⟨k, hk, rfl⟩ := Option.map_eq_some_iff.1 h
    simpa using ih hk
  | case3 rest => simp at h; simp [← h]
  | case4 depth rest hd ih =>
    obtain ⟨k, hk, rfl⟩ := Option.map_eq_some_iff.1 h
    simpa using ih hk
  | case5 depth c rest _ _ ih =>
    obtain ⟨k, hk, rfl⟩ := Option.map_eq_some_iff.1 h
    simpa using ih hk

theorem closing?_lt {text : Text} {n : Nat} (h : closing? text = some n) : n < text.length :=
  closingFrom_lt h

/-- An operator at an offset of a text. -/
structure Occurrence where
  operator : Operator
  offset : Nat
  deriving DecidableEq, Repr

namespace Occurrence

/-- The operators outside parentheses in a text that starts at `offset`, or the offset of the first
`(` that is never closed. -/
def outside (offset : Nat) (text : Text) : Except Nat (List Occurrence) :=
  match text with
  | [] => .ok []
  | '(' :: rest =>
    match closing? ('(' :: rest) with
    | some close => outside (offset + close + 1) (rest.drop close)
    | none => .error offset
  | c :: rest =>
    match Operator.atFront? (c :: rest) with
    | some op => do
      let later ← outside (offset + op.width) (rest.drop (op.width - 1))
      return ⟨op, offset⟩ :: later
    | none => outside (offset + 1) rest
termination_by text.length
decreasing_by all_goals simp only [List.length_drop, List.length_cons]; omega

/-- Is `next` rather than `best` the operator to cut at, `next` standing further right? -/
def replaces (next best : Occurrence) : Bool :=
  next.operator.precedence < best.operator.precedence ||
    (next.operator.precedence = best.operator.precedence && next.operator.laterWins)

/-- The operator to cut at among `best` and those further right. -/
def loosestFrom (best : Occurrence) : List Occurrence → Occurrence
  | [] => best
  | next :: later => loosestFrom (if next.replaces best then next else best) later

/-- The operator to cut at: one of the lowest precedence, the last of them, but the first of them
for negations and for operators that group to the right. -/
def loosest? : List Occurrence → Option Occurrence
  | [] => none
  | first :: later => some (loosestFrom first later)

/-! ## Bounds -/

theorem outside_bounds {offset : Nat} {text : Text} {found : List Occurrence}
    (h : outside offset text = .ok found) {o : Occurrence} (ho : o ∈ found) :
    offset ≤ o.offset ∧ o.offset + o.operator.width ≤ offset + text.length := by
  fun_induction outside offset text generalizing found with
  | case1 offset =>
    rw [← Except.ok.inj h] at ho
    simp at ho
  | case2 offset rest close hc ih =>
    have hb := ih h ho
    have := closing?_lt hc
    simp only [List.length_drop, List.length_cons] at *
    omega
  | case3 => simp at h
  | case4 offset c rest _ op hop ih =>
    have hw := Operator.width_le_of_atFront? hop
    have hp := op.width_pos
    cases hr : outside (offset + op.width) (rest.drop (op.width - 1)) with
    | error e => simp [hr, bind, Except.bind] at h
    | ok later =>
      simp only [hr, bind, Except.bind, pure, Except.pure, Except.ok.injEq] at h
      subst h
      rcases List.mem_cons.1 ho with rfl | hm
      · simp only [List.length_cons] at *
        omega
      · have hb := ih hr hm
        simp only [List.length_drop, List.length_cons] at *
        omega
  | case5 offset c rest _ hop ih =>
    have hb := ih h ho
    simp only [List.length_cons] at *
    omega

theorem loosestFrom_mem (best : Occurrence) (later : List Occurrence) :
    loosestFrom best later ∈ best :: later := by
  induction later generalizing best with
  | nil => simp [loosestFrom]
  | cons next later ih =>
    have h := ih (if next.replaces best then next else best)
    rw [loosestFrom]
    rcases List.mem_cons.1 h with h | h
    · rw [h]
      split <;> simp
    · simp [h]

theorem loosest?_mem {found : List Occurrence} {o : Occurrence} (h : loosest? found = some o) :
    o ∈ found := by
  match found with
  | [] => simp [loosest?] at h
  | first :: later =>
    simp only [loosest?, Option.some.injEq] at h
    exact h ▸ loosestFrom_mem first later

end Occurrence

end DialogGate
