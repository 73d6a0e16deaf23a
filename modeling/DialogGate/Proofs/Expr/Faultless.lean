import DialogGate.Proofs.Expr.Unterminated
import DialogGate.Proofs.Operator.Positions
import DialogGate.Proofs.Text.Keyword

/-! # Reading without faults

A condition read with every precaution: each subtraction is checked, a blank text is refused, and so
is a part that is not shorter than the text it is taken from (`Checked.parseText`, whose recursion
ends for this reason alone). No precaution is ever needed. Reading any text gives the tree that
`Expr.ofText` gives, or the same error (`Checked.ofText_faultless`).

What a single level does is `Checked.parts`, for any way to read its parts; `parts_eq` compares it to
`Cut.of`. The error for a blank condition is not given on any level below (`parseAt_eq_empty_iff`).
-/

namespace DialogGate

/-! ## Digits as a text of their own -/

namespace Cut

/-- Digits are a literal, with the value that they have as an index. -/
theorem literal?_digits {digits : Text} (hne : digits ≠ [])
    (hd : ∀ c ∈ digits, Text.isDigit c = true) :
    literal? digits = some
      (match (Text.natOf? digits).map (Binary64.ofDecimal false · 0) with
      | some x => .ok (.number x)
      | none => .error (.unreadable digits)) := by
  have hunsign : Numeral.unsign digits = (false, digits) := by
    refine Numeral.unsign_eq_self fun c hc => ?_
    have hc := hd c (List.mem_of_head? hc)
    constructor <;> · rintro rfl; exact absurd hc (by decide)
  have hn : Numeral.of? digits = some ⟨false, digits, []⟩ := by
    rw [Numeral.of?_eq_some_iff, hunsign]
    exact ⟨rfl, List.all_eq_true.2 hd, rfl, .inl ⟨rfl, hne, rfl⟩⟩
  have htrue : digits ≠ "true".toList := by
    rintro rfl
    exact absurd (hd 't' (by decide)) (by decide)
  have hfalse : digits ≠ "false".toList := by
    rintro rfl
    exact absurd (hd 'f' (by decide)) (by decide)
  have hx : (⟨false, digits, []⟩ : Numeral).value? =
      (Text.natOf? digits).map (Binary64.ofDecimal false · 0) := by
    rw [Numeral.value?, Numeral.scaled?, List.append_nil]
    rfl
  rw [literal?, if_neg htrue, if_neg hfalse, hn]
  cases hv : (Text.natOf? digits).map (Binary64.ofDecimal false · 0) <;>
    simp only [Option.map_some, hx, hv]

end Cut

namespace Checked

open Occurrence

/-- The text between the parentheses, if they enclose a whole text. -/
def elided? (text : Text) : Except Stop (Option Text) :=
  if text.head? = some '(' then do
    let close ← matchingParen text 0
    let last ← subtract text.length 1
    if close = last then do
      let size ← subtract close 1
      return some ((text.drop 1).take size)
    else
      return none
  else
    return none

section
variable (read : Text → Except Stop Expr)

/-- Reads a part of a text, as an operand of the operator. -/
def operand (op : Operator) (text part : Text) : Except Stop Expr :=
  if Text.isBlank part then .error (.rejected (.missingOperand op text)) else read part

/-- Reads the sides of the operator that a text is cut at. -/
def sides (text : Text) (o : Occurrence) : Except Stop Expr :=
  match o.operator with
  | .not =>
    if Text.isBlank (o.before text) then
      (operand read .not text (o.after text)).map .not
    else
      .error (.rejected (.unexpected (Text.trim (o.before text)) text))
  | .binary op => do
    let left ← operand read (.binary op) text (o.before text)
    let right ← operand read (.binary op) text (o.after text)
    return .binary op left right

/-- Reads a trimmed text, and its parts in the given way. -/
def parts (text : Text) : Except Stop Expr :=
  match Cut.literal? text with
  | some e => e.mapError .rejected
  | none => do
    match ← elided? text with
    | some inner =>
      if Text.isBlank inner then .error (.rejected .emptyGroup) else read inner
    | none =>
      match ← loosest text with
      | some o => sides read text o
      | none =>
        match Cut.variableDigits? text with
        | some digits => (read digits).map .lookup
        | none => .error (.rejected (.unreadable text))

end

/-- Reads a text that is not blank, and every part of it if it is shorter. -/
def parseText (text : Text) : Except Stop Expr :=
  if Text.isBlank text then
    .error (.fault .blank)
  else
    parts (fun part =>
      if _h : part.length < text.length then parseText part else .error (.fault .notShorter))
      (Text.trim text)
termination_by text.length

/-- Reads a condition. -/
def ofText (raw : Text) : Except Stop Expr :=
  let source := Text.spellNot raw
  if Text.isBlank source then .error (.rejected .empty) else parseText source

/-! ## One level -/

variable {text : Text} {read : Text → Except Stop Expr}

/-- The subtractions are of one from a length and from a position behind the first: the whole text is
not empty, and its first parenthesis is not closed by itself. -/
theorem elided?_eq (text : Text) : elided? text =
    if text.head? = some '(' ∧ closing? text = none then
      .error (.rejected (.unterminated text 0))
    else
      .ok (Cut.group? text) := by
  match text with
  | [] => rfl
  | c :: rest =>
    by_cases hc : c = '('
    · subst hc
      have hhead : ('(' :: rest).head? = some '(' := rfl
      have hm := matchingParen_eq (List.drop_zero (l := '(' :: rest))
      rw [elided?, if_pos hhead, hm]
      cases hclose : closing? ('(' :: rest) with
      | none =>
        rw [if_pos ⟨hhead, rfl⟩]
        rfl
      | some close =>
        have hpos : 1 ≤ close := by
          obtain ⟨n, -, rfl⟩ := Option.map_eq_some_iff.1 hclose
          omega
        have hlast : subtract ('(' :: rest).length 1 = .ok rest.length :=
          subtract_of_le (Nat.le_add_left 1 rest.length)
        rw [if_neg (fun h => nomatch h.2)]
        simp only [Nat.zero_add, hlast, subtract_of_le hpos, bind, Except.bind, pure, Except.pure,
          Cut.group?, hclose, Option.some.injEq]
        split
        · next h =>
          rw [h, List.drop_one, List.tail_cons, List.dropLast_eq_take]
        · rfl
    · have hhead : ¬(c :: rest).head? = some '(' := fun h => hc (Option.some.inj h)
      have hgroup : Cut.group? (c :: rest) = none := by
        unfold Cut.group?
        split
        · next h => exact absurd (List.cons.inj h).1 hc
        · rfl
      rw [elided?, if_neg hhead, if_neg (fun h => hhead h.1), hgroup]
      rfl

/-- One level is what `Cut.of` finds, provided that the digits of a variable are read as its
index. -/
theorem parts_eq (hdigits : ∀ digits, Cut.variableDigits? text = some digits →
      (read digits).map .lookup = (Cut.reference text).mapError .rejected) :
    parts read text =
      match Cut.of text with
      | .error e => .error (.rejected e)
      | .ok (.leaf e) => .ok e
      | .ok (.group inner) =>
        if Text.isBlank inner then .error (.rejected .emptyGroup) else read inner
      | .ok (.split o) => sides read text o := by
  unfold parts Cut.of
  cases Cut.literal? text with
  | some r => cases r <;> rfl
  | none =>
    simp only [elided?_eq, loosest_eq]
    by_cases h : text.head? = some '(' ∧ closing? text = none
    · rw [if_pos h]
      obtain ⟨hhead, hclose⟩ := h
      cases text with
      | nil => cases hhead
      | cons c rest =>
        obtain rfl := Option.some.inj hhead
        have hgroup : Cut.group? ('(' :: rest) = none := by
          rw [Cut.group?, hclose]
          rfl
        rw [hgroup, outside_unclosed hclose]
        rfl
    · rw [if_neg h]
      cases Cut.group? text with
      | some inner => rfl
      | none =>
        cases outside 0 text with
        | error first => rfl
        | ok found =>
          simp only [bind, Except.bind]
          cases loosest? found with
          | some o => rfl
          | none =>
            cases hv : Cut.variableDigits? text with
            | some digits =>
              simp only [hdigits digits hv]
              cases Cut.reference text <;> rfl
            | none =>
              have href : Cut.reference text = .error (.unreadable text) := by
                rw [Cut.reference, hv]
              rw [href]
              rfl

/-! ## All levels -/

/-- A part of a text, if it is shorter. -/
def below (text part : Text) : Except Stop Expr :=
  if part.length < text.length then parseText part else .error (.fault .notShorter)

theorem below_of_lt {part : Text} (h : part.length < text.length) :
    below text part = parseText part := if_pos h

theorem parseText_of_not_blank (h : ¬Text.isBlank text = true) :
    parseText text = parts (below text) (Text.trim text) := by
  rw [parseText, if_neg h]
  rfl

theorem parseText_digits {digits : Text} (h : Cut.variableDigits? text = some digits) :
    (parseText digits).map .lookup = (Cut.reference text).mapError .rejected := by
  obtain ⟨v, -, hne, hall, -⟩ := Grammar.variableDigits?_eq_some_iff.1 h
  have hd : ∀ c ∈ digits, Text.isDigit c = true := List.all_eq_true.1 hall
  have htrimmed : Text.Trimmed digits :=
    ⟨fun c hc => Text.isSpace_of_isDigit (hd c (List.mem_of_head? hc)),
      fun c hc => Text.isSpace_of_isDigit (hd c (List.mem_of_getLast? hc))⟩
  rw [parseText_of_not_blank (htrimmed.not_isBlank hne), Text.trim_eq_self htrimmed, parts,
    Cut.literal?_digits hne hd, Cut.reference, h]
  simp only
  cases (Text.natOf? digits).map (Binary64.ofDecimal false · 0) <;> rfl

theorem below_digits {digits : Text}
    (h : Cut.variableDigits? (Text.trim text) = some digits) :
    (below text digits).map .lookup = (Cut.reference (Text.trim text)).mapError .rejected := by
  have hlt : digits.length < text.length := by
    obtain ⟨v, -, -, -, ht⟩ := Grammar.variableDigits?_eq_some_iff.1 h
    have hlen := congrArg List.length ht
    have hle := Text.length_trim_le text
    simp only [List.length_append, List.length_cons] at hlen
    omega
  rw [below_of_lt hlt, parseText_digits h]

theorem operand_eq {op : Operator} {t part : Text} (hlt : part.length < text.length)
    (ih : ¬Text.isBlank part = true →
      parseText part = (Expr.parseAt (.operand op t) part).mapError .rejected) :
    operand (below text) op t part = (Expr.parseAt (.operand op t) part).mapError .rejected := by
  by_cases hb : Text.isBlank part = true
  · rw [operand, if_pos hb, Expr.parseAt_blank hb]
    rfl
  · rw [operand, if_neg hb, below_of_lt hlt, ih hb]

theorem parseText_level (h : ¬Text.isBlank text = true) :
    parseText text =
      match Cut.of (Text.trim text) with
      | .error e => .error (.rejected e)
      | .ok (.leaf e) => .ok e
      | .ok (.group inner) =>
        if Text.isBlank inner then .error (.rejected .emptyGroup) else below text inner
      | .ok (.split o) => sides (below text) (Text.trim text) o := by
  rw [parseText_of_not_blank h]
  exact parts_eq fun digits => below_digits

/-- Reading a text that is not blank never comes to a fault. -/
theorem parseText_eq (h : ¬Text.isBlank text = true) (place : Place) :
    parseText text = (Expr.parseAt place text).mapError .rejected := by
  fun_induction Expr.parseAt place text with
  | case1 place text hb => exact absurd hb h
  | case2 place text hb t e hc =>
    rw [parseText_level hb, hc]
    rfl
  | case3 place text hb t e hc =>
    rw [parseText_level hb, hc]
    rfl
  | case4 place text hb t inner hc ih =>
    have hlt := Nat.lt_of_lt_of_le (Cut.length_group_lt hc) (Text.length_trim_le text)
    rw [parseText_level hb, hc]
    by_cases hi : Text.isBlank inner = true
    · simp only [if_pos hi, Expr.parseAt_blank hi]
      rfl
    · simp only [if_neg hi, below_of_lt hlt, ih hi]
  | case5 place text hb t o hc ho hn ih =>
    have hlt := Nat.lt_of_lt_of_le (length_after_lt (Cut.offset_lt_of_split hc))
      (Text.length_trim_le text)
    rw [parseText_level hb, hc]
    show sides (below text) t o = _
    simp only [sides, ho, if_pos hn]
    rw [operand_eq hlt ih]
    cases Expr.parseAt (.operand .not t) (o.after t) <;> rfl
  | case6 place text hb t o hc ho hn =>
    rw [parseText_level hb, hc]
    show sides (below text) t o = _
    simp only [sides, ho, if_neg hn]
    rfl
  | case7 place text hb t o hc op ho ihl ihr =>
    have hoffset := Cut.offset_lt_of_split hc
    have hle := Text.length_trim_le text
    have hleft := Nat.lt_of_lt_of_le (length_before_lt hoffset) hle
    have hright := Nat.lt_of_lt_of_le (length_after_lt hoffset) hle
    rw [parseText_level hb, hc]
    show sides (below text) t o = _
    simp only [sides, ho]
    rw [operand_eq hleft ihl, operand_eq hright ihr]
    cases Expr.parseAt (.operand (.binary op) t) (o.before t) with
    | error e => rfl
    | ok left => cases Expr.parseAt (.operand (.binary op) t) (o.after t) <;> rfl

end Checked

/-! ## Blank conditions -/

namespace Expr

/-- No part of a condition is reported as an empty condition, only the whole. -/
theorem parseAt_eq_empty_iff {place : Place} {text : Text} :
    parseAt place text = .error .empty ↔ place = .whole ∧ Text.isBlank text = true := by
  constructor
  · intro he
    fun_induction parseAt place text with
    | case1 place text hb =>
      cases place with
      | whole => exact ⟨rfl, hb⟩
      | group => cases he
      | operand op t => cases he
    | case2 place text hb t e hc =>
      obtain rfl := Except.error.inj he
      rcases Cut.of_error_cases hc with ⟨part, hp⟩ | ⟨position, hp, -⟩ <;> cases hp
    | case3 => cases he
    | case4 place text hb t inner hc ih => cases (ih he).1
    | case5 place text hb t o hc ho hn ih =>
      cases hx : parseAt (.operand .not t) (o.after t) with
      | ok x =>
        rw [hx] at he
        cases he
      | error e =>
        rw [hx] at he
        cases (ih (hx.trans he)).1
    | case6 => cases he
    | case7 place text hb t o hc op ho ihl ihr =>
      cases hx : parseAt (.operand (.binary op) t) (o.before t) with
      | error e =>
        rw [hx] at he
        cases (ihl (hx.trans he)).1
      | ok x =>
        cases hy : parseAt (.operand (.binary op) t) (o.after t) with
        | error e =>
          rw [hx, hy] at he
          cases (ihr (hy.trans he)).1
        | ok y =>
          rw [hx, hy] at he
          cases he
  · rintro ⟨rfl, hb⟩
    exact parseAt_blank hb

end Expr

namespace Checked

/-- Reading any condition ends with its tree or with an error, as `Expr.ofText` does, and never with
a fault: no counter goes below zero, no search for a closing parenthesis starts anywhere but at an
opening one, and only parts are read that are not blank and shorter than the text around them. The
error for an empty condition is given exactly for blank ones, and never for a part. -/
theorem ofText_faultless (raw : Text) :
    ofText raw = (Expr.ofText raw).mapError .rejected ∧
    (∀ fault, ofText raw ≠ .error (.fault fault)) ∧
    (Expr.ofText raw = .error .empty ↔ Text.isBlank raw = true) ∧
    ∀ part, parseText part ≠ .error (.rejected .empty) := by
  have heq : ofText raw = (Expr.ofText raw).mapError .rejected := by
    by_cases hb : Text.isBlank (Text.spellNot raw) = true
    · rw [ofText, if_pos hb, Expr.ofText, Expr.parseAt_blank hb]
      rfl
    · rw [ofText, if_neg hb, Expr.ofText, parseText_eq hb .whole]
  refine ⟨heq, fun fault hf => ?_, ?_, fun part he => ?_⟩
  · rw [heq] at hf
    cases hr : Expr.ofText raw <;> rw [hr] at hf <;> cases hf
  · rw [Expr.ofText, Expr.parseAt_eq_empty_iff, Text.spellNot, Text.isBlank_spellNotAfter]
    simp
  · by_cases hb : Text.isBlank part = true
    · rw [parseText, if_pos hb] at he
      cases he
    · rw [parseText_eq hb .group] at he
      cases hr : Expr.parseAt .group part with
      | ok e =>
        rw [hr] at he
        cases he
      | error e =>
        rw [hr] at he
        obtain rfl := Stop.rejected.inj (Except.error.inj he)
        cases (Expr.parseAt_eq_empty_iff.1 hr).1

end Checked

end DialogGate
