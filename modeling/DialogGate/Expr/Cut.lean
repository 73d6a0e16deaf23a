import DialogGate.Binary64.Decimal
import DialogGate.Text.Blank
import DialogGate.Expr.Basic
import DialogGate.Expr.ParseError
import DialogGate.Operator.Occurrence

/-! # What a text is, at its outermost level

`Cut.of` says what a trimmed text is without looking into its parts: a literal or a variable, a
group in parentheses, or two sides of the operator it is cut at. Reading a condition is this
function and the recursion on the parts.

* `length_group_lt`, `offset_lt_of_split`: every part is shorter than the text.
-/

namespace DialogGate

/-- What a text is at its outermost level. -/
inductive Cut where
  /-- A literal or a variable. -/
  | leaf (e : Expr)
  /-- Parentheses around everything else. -/
  | group (inner : Text)
  /-- The operator that stands between the parts. -/
  | split (o : Occurrence)

namespace Cut

/-- The digits of a variable reference, `\v[digits]` or `\V[digits]`; they may be of any script. -/
def variableDigits? : Text → Option Text
  | '\\' :: v :: '[' :: rest =>
    let digits := rest.takeWhile Text.isDigit
    if (v = 'v' ∨ v = 'V') ∧ digits ≠ [] ∧ rest.dropWhile Text.isDigit = [']'] then some digits
    else none
  | _ => none

/-- The inside of the parentheses, if the first `(` of a text stands at its front and is closed by
its last character. -/
def group? : Text → Option Text
  | '(' :: rest =>
    if closing? ('(' :: rest) = some rest.length then some rest.dropLast else none
  | _ => none

/-- A literal. Digits of another script give it the form of a number but no value. -/
def literal? (text : Text) : Option (Except ParseError Expr) :=
  if text = "true".toList then some (.ok (.boolean true))
  else if text = "false".toList then some (.ok (.boolean false))
  else (Numeral.of? text).map fun n =>
    match n.value? with
    | some x => .ok (.number x)
    | none => .error (.unreadable text)

/-- A text without operators that is no literal: a variable, or nothing that can be read. -/
def reference (text : Text) : Except ParseError Expr :=
  match variableDigits? text with
  | some digits =>
    match (Text.natOf? digits).map (Binary64.ofDecimal false · 0) with
    | some x => .ok (.lookup (.number x))
    | none => .error (.unreadable digits)
  | none => .error (.unreadable text)

/-- What a trimmed text is at its outermost level. -/
def of (text : Text) : Except ParseError Cut :=
  match literal? text with
  | some e => e.map leaf
  | none =>
    match group? text with
    | some inner => .ok (group inner)
    | none =>
      match Occurrence.outside 0 text with
      | .error position => .error (.unterminated text position)
      | .ok found =>
        match Occurrence.loosest? found with
        | some o => .ok (split o)
        | none => (reference text).map leaf

theorem length_lt_of_group? {text inner : Text} (h : group? text = some inner) :
    inner.length < text.length := by
  unfold group? at h
  split at h
  · split at h
    · simp only [Option.some.injEq] at h
      simp only [← h, List.length_dropLast, List.length_cons]
      omega
    · simp at h
  · simp at h

theorem length_group_lt {text inner : Text} (h : of text = .ok (group inner)) :
    inner.length < text.length := by
  unfold of at h
  split at h
  · next e _ => cases e <;> simp [Except.map] at h
  · split at h
    · next hg =>
      simp only [Except.ok.injEq, group.injEq] at h
      exact h ▸ length_lt_of_group? hg
    · split at h
      · simp at h
      · split at h
        · simp at h
        · cases hr : reference text <;> simp [hr, Except.map] at h

theorem offset_lt_of_split {text : Text} {o : Occurrence} (h : of text = .ok (split o)) :
    o.offset < text.length := by
  unfold of at h
  split at h
  · next e _ => cases e <;> simp [Except.map] at h
  · split at h
    · simp at h
    · split at h
      · simp at h
      · next hf =>
        split at h
        · next hl =>
          simp only [Except.ok.injEq, split.injEq] at h
          subst h
          have := Occurrence.outside_bounds hf (Occurrence.loosest?_mem hl)
          have := Operator.width_pos ‹Occurrence›.operator
          omega
        · cases hr : reference text <;> simp [hr, Except.map] at h

end Cut

end DialogGate
