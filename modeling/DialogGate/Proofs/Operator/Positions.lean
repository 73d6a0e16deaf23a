import DialogGate.Expr.ParseError
import DialogGate.Proofs.Operator.Outside

/-! # Scanning by positions

The search for the operator that a text is cut at, done in single steps: a position goes through the
text, a counter holds the number of open parentheses, and every step that must not happen is a
`Fault`. A search for a closing parenthesis must start at an opening one, and only so the counter is
never zero when a parenthesis is closed (`seekClosing_eq`: it is positive all the way).

* `matchingParen_eq`: the `)` found is the one that closes the `(` at the position.
* `tells_advance`: a step of the search goes over a group, an operator or one other character; there
  is none at the end of the text, and none at a `(` that is never closed.
* `seekLoosest_eq`: all steps together find what `Occurrence.outside` finds, and this is where they
  stop.
* `loosest_eq`: the search finds what `Occurrence.outside` and `Occurrence.loosest?` find, and ends
  without a fault.
-/

namespace DialogGate

/-- What must not happen while a text is read. -/
inductive Fault where
  /-- There is no `(` where the search for its `)` starts. -/
  | notOpening (position : Nat)
  /-- A subtraction would go below zero. -/
  | belowZero
  /-- A blank text is read. -/
  | blank
  /-- A part is read that is not shorter than the text it is taken from. -/
  | notShorter
  deriving DecidableEq, Repr

/-- Why reading ends without a tree. -/
inductive Stop where
  | fault (f : Fault)
  | rejected (e : ParseError)
  deriving DecidableEq, Repr

namespace Checked

/-- The difference of two numbers that has to be a natural number. -/
def subtract (a b : Nat) : Except Stop Nat :=
  if b ≤ a then .ok (a - b) else .error (.fault .belowZero)

theorem subtract_of_le {a b : Nat} (h : b ≤ a) : subtract a b = .ok (a - b) := if_pos h

/-- Goes through the rest of a text from a position on, with the number of open parentheses, as far
as the `)` that leaves none open. -/
def seekClosing (position depth : Nat) : Text → Except Stop (Option Nat)
  | [] => .ok none
  | '(' :: rest => seekClosing (position + 1) (depth + 1) rest
  | ')' :: rest => do
    let depth ← subtract depth 1
    if depth = 0 then return some position else seekClosing (position + 1) depth rest
  | _ :: rest => seekClosing (position + 1) depth rest

/-- The position of the `)` that closes the `(` at `start`. -/
def matchingParen (text : Text) (start : Nat) : Except Stop Nat :=
  if text[start]? = some '(' then do
    match ← seekClosing start 0 (text.drop start) with
    | some close => return close
    | none => .error (.rejected (.unterminated text start))
  else
    .error (.fault (.notOpening start))

theorem map_succ (position : Nat) (found : Option Nat) :
    (found.map (· + 1)).map (position + ·) = found.map (position + 1 + ·) := by
  cases found with
  | none => rfl
  | some n =>
    simp only [Option.map_some, Option.some.injEq]
    omega

/-- An open parenthesis keeps the counter positive, up to the step that ends the search. -/
theorem seekClosing_eq {depth : Nat} (h : 0 < depth) (position : Nat) (text : Text) :
    seekClosing position depth text = .ok ((closingFrom depth text).map (position + ·)) := by
  fun_induction closingFrom depth text generalizing position with
  | case1 => rfl
  | case2 depth rest ih => rw [seekClosing, ih (Nat.succ_pos depth), map_succ]
  | case3 rest =>
    rw [seekClosing, subtract_of_le h]
    rfl
  | case4 depth rest hd ih =>
    have hpos : 0 < depth - 1 := by omega
    rw [seekClosing, subtract_of_le h, map_succ, ← ih hpos]
    exact if_neg (Nat.ne_of_gt hpos)
  | case5 depth c rest hopen hclose ih =>
    rw [seekClosing, ih h, map_succ]
    · exact hopen
    · exact hclose

/-- Without an open parenthesis, closing one would take the counter below zero. -/
example : seekClosing 0 0 ")".toList = .error (.fault .belowZero) := rfl

theorem matchingParen_eq {text rest : Text} {start : Nat} (h : text.drop start = '(' :: rest) :
    matchingParen text start =
      match closing? ('(' :: rest) with
      | some close => .ok (start + close)
      | none => .error (.rejected (.unterminated text start)) := by
  have hopen : text[start]? = some '(' := getElem?_eq_some_iff_drop.2 ⟨rest, h⟩
  rw [matchingParen, if_pos hopen, h, seekClosing, seekClosing_eq Nat.one_pos, closing?,
    closingFrom]
  cases closingFrom 1 rest with
  | none => rfl
  | some n =>
    show Except.ok (start + 1 + n) = Except.ok (start + (n + 1))
    rw [Nat.add_assoc, Nat.add_comm 1 n]

/-! ## The operator to cut at -/

/-- The operator to cut at after one more has been found, further right than the one so far. -/
def choose (best : Option Occurrence) (next : Occurrence) : Option Occurrence :=
  match best with
  | none => some next
  | some current => some (if next.replaces current then next else current)

/-- One step of the search for the operator to cut at, `best` being the one to cut at among those
further left: the position and the operator to go on with, unless the text ends at the position. -/
def advance (text : Text) (position : Nat) (best : Option Occurrence) :
    Except Stop (Option (Nat × Option Occurrence)) :=
  match text[position]? with
  | none => return none
  | some '(' => do
    let close ← matchingParen text position
    return some (close + 1, best)
  | some _ =>
    match Operator.atFront? (text.drop position) with
    | some op => return some (position + op.width, choose best ⟨op, position⟩)
    | none => return some (position + 1, best)

section
variable {text rest : Text} {position : Nat} {best : Option Occurrence}

theorem advance_atEnd (h : text.drop position = []) : advance text position best = .ok none := by
  have hget : text[position]? = none := List.getElem?_eq_none (List.drop_eq_nil_iff.1 h)
  rw [advance, hget]
  rfl

theorem advance_paren (h : text.drop position = '(' :: rest) :
    advance text position best =
      match closing? ('(' :: rest) with
      | some close => .ok (some (position + close + 1, best))
      | none => .error (.rejected (.unterminated text position)) := by
  have hget : text[position]? = some '(' := getElem?_eq_some_iff_drop.2 ⟨rest, h⟩
  rw [advance, hget]
  simp only [matchingParen_eq h]
  cases closing? ('(' :: rest) <;> rfl

theorem advance_other {c : Char} (h : text.drop position = c :: rest) (hc : c ≠ '(') :
    advance text position best =
      match Operator.atFront? (c :: rest) with
      | some op => .ok (some (position + op.width, choose best ⟨op, position⟩))
      | none => .ok (some (position + 1, best)) := by
  have hget : text[position]? = some c := getElem?_eq_some_iff_drop.2 ⟨rest, h⟩
  rw [advance, hget, h]
  split
  · next hn => cases hn
  · next hopen => exact absurd (Option.some.inj hopen) hc
  · cases Operator.atFront? (c :: rest) <;> rfl

end

/-- What the outcome of a step says of the place where it was taken. -/
def Tells (text : Text) (position : Nat) :
    Except Stop (Option (Nat × Option Occurrence)) → Prop
  | .ok (some (next, _)) => ∃ n, Occurrence.Step (text.drop position) n ∧ next = position + n
  | .ok none => text.length ≤ position
  | .error stop => stop = .rejected (.unterminated text position) ∧ Unclosed text position

theorem tells_advance (text : Text) (position : Nat) (best : Option Occurrence) :
    Tells text position (advance text position best) := by
  cases hd : text.drop position with
  | nil =>
    rw [advance_atEnd hd]
    exact List.drop_eq_nil_iff.1 hd
  | cons c rest =>
    by_cases hc : c = '('
    · subst hc
      rw [advance_paren hd]
      cases hclose : closing? ('(' :: rest) with
      | some close => exact ⟨close + 1, hd ▸ Occurrence.step_of_closing? hclose, rfl⟩
      | none => exact ⟨rfl, unclosed_iff.2 ⟨rest, hd, hclose⟩⟩
    · rw [advance_other hd hc]
      cases hop : Operator.atFront? (c :: rest) with
      | some op => exact ⟨op.width, hd ▸ .operator (Operator.leads_of_atFront? hop), rfl⟩
      | none => exact ⟨1, hd ▸ .other hc (Operator.atFront?_eq_none_iff.1 hop), rfl⟩

/-- A step goes forward, and only inside the text. -/
theorem lt_of_advance {text : Text} {position next : Nat} {best best' : Option Occurrence}
    (h : advance text position best = .ok (some (next, best'))) :
    position < next ∧ position < text.length := by
  have htells := tells_advance text position best
  rw [h] at htells
  obtain ⟨n, hstep, rfl⟩ := htells
  have hpos := hstep.pos
  have hle := hstep.le_length
  rw [List.length_drop] at hle
  omega

/-- Goes on with the search for the operator to cut at, `best` being the one to cut at among those
further left; also the position at which the search stops. -/
def seekLoosest (text : Text) (position : Nat) (best : Option Occurrence) :
    Except Stop (Option Occurrence) × Nat :=
  match _h : advance text position best with
  | .error stop => (.error stop, position)
  | .ok none => (.ok best, position)
  | .ok (some (next, best)) => seekLoosest text next best
termination_by text.length - position
decreasing_by
  obtain ⟨hnext, hlt⟩ := lt_of_advance _h
  omega

/-- The operator that a text is cut at. -/
def loosest (text : Text) : Except Stop (Option Occurrence) := (seekLoosest text 0 none).1

theorem foldl_choose (best : Occurrence) (later : List Occurrence) :
    later.foldl choose (some best) = some (Occurrence.loosestFrom best later) := by
  induction later generalizing best with
  | nil => rfl
  | cons next later ih => exact ih _

theorem foldl_choose_none (found : List Occurrence) :
    found.foldl choose none = Occurrence.loosest? found := by
  cases found with
  | nil => rfl
  | cons first later => exact foldl_choose first later

theorem seekLoosest_step (text : Text) (position : Nat) (best : Option Occurrence) :
    seekLoosest text position best =
      match advance text position best with
      | .error stop => (.error stop, position)
      | .ok none => (.ok best, position)
      | .ok (some (next, best)) => seekLoosest text next best := by
  rw [seekLoosest]
  split <;> next h => rw [h]

theorem drop_add {text rest : Text} {position : Nat} (h : text.drop position = rest) (n : Nat) :
    text.drop (position + n) = rest.drop n := by
  rw [← h, List.drop_drop]

theorem length_eq_add_of_drop {text rest : Text} {position : Nat} (hle : position ≤ text.length)
    (h : text.drop position = rest) : text.length = position + rest.length := by
  rw [← h, List.length_drop, Nat.add_sub_cancel' hle]

/-- The search from a position on chooses among the operators outside parentheses and stops at the
end of the text, or it stops at a `(` without its `)` where there is one. -/
theorem seekLoosest_eq {text rest : Text} {position : Nat} (hle : position ≤ text.length)
    (h : text.drop position = rest) (best : Option Occurrence) :
    seekLoosest text position best =
      match Occurrence.outside position rest with
      | .ok found => (.ok (found.foldl choose best), text.length)
      | .error first => (.error (.rejected (.unterminated text first)), first) := by
  induction rest using Occurrence.scan_induction generalizing position best with
  | nil =>
    have hlen := length_eq_add_of_drop hle h
    rw [seekLoosest_step, advance_atEnd h, Occurrence.outside_nil, hlen]
    rfl
  | group rest close hclose ih =>
    have hlen := length_eq_add_of_drop hle h
    have hlt := closing?_lt hclose
    rw [seekLoosest_step, advance_paren h, hclose, Occurrence.outside_group hclose]
    exact ih (by omega) (drop_add h (close + 1)) best
  | unclosed rest hclose =>
    rw [seekLoosest_step, advance_paren h, hclose, Occurrence.outside_unclosed hclose]
  | operator rest op hop ih =>
    cases rest with
    | nil => cases hop
    | cons c rest =>
      have hlen := length_eq_add_of_drop hle h
      have hw := Operator.width_le_of_atFront? hop
      rw [seekLoosest_step, advance_other h (Operator.ne_paren_of_atFront? hop), hop,
        Occurrence.outside_operator hop]
      simp only [ih (by omega) (drop_add h op.width)]
      cases Occurrence.outside (position + op.width) ((c :: rest).drop op.width) <;> rfl
  | skip c rest hc hop ih =>
    have hlen := length_eq_add_of_drop hle h
    rw [List.length_cons] at hlen
    rw [seekLoosest_step, advance_other h hc, hop, Occurrence.outside_skip hc hop]
    exact ih (by omega) (drop_add h 1) best

/-- The search for the operator to cut at ends without a fault: with the operator, or with the first
`(` that is never closed. -/
theorem loosest_eq (text : Text) :
    loosest text =
      match Occurrence.outside 0 text with
      | .ok found => .ok (Occurrence.loosest? found)
      | .error first => .error (.rejected (.unterminated text first)) := by
  rw [loosest, seekLoosest_eq (Nat.zero_le _) List.drop_zero]
  cases Occurrence.outside 0 text with
  | error first => rfl
  | ok found => exact congrArg Except.ok (foldl_choose_none found)

end Checked

end DialogGate
