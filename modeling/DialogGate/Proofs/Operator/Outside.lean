import DialogGate.Proofs.Operator.Unclosed

/-! # Where operators stand outside parentheses

What a scan from left to right comes to, said of the places of a text and not of the search. A `(`
begins a group, which ends as soon as it has as many `)` as `(` (`IsGroup`). A scan goes over a group
in one step, and so it does over the longest spelling of an operator, or else over one character
(`Step`). An operator stands outside parentheses if the steps from the front lead to it
(`IsOutside`).

`outside` lists exactly these operators from left to right if every `(` that the steps lead to is
closed, and reports one that is not otherwise (`found_outside`, by induction on the steps). No step
ends inside a group, also not inside one that is nested in others (`Reached.not_inside`).
-/

namespace DialogGate

/-! ## Groups -/

/-- Begins with a `(` and ends where for the first time as many parentheses are closed as opened. -/
structure IsGroup (group : Text) : Prop where
  opens : group.head? = some '('
  even : group.count '(' = group.count ')'
  first : ∀ piece, piece <+: group → piece ≠ [] → piece.count '(' = piece.count ')' → piece = group

section
variable {text piece rest : Text} {close : Nat}

theorem closing?_ne_none_iff (h : text.head? = some '(') :
    closing? text ≠ none ↔
      ∃ piece, piece <+: text ∧ piece ≠ [] ∧ piece.count '(' = piece.count ')' := by
  obtain ⟨rest, rfl⟩ := List.head?_eq_some_iff.1 h
  rw [ne_eq, closing?_eq_none_iff]
  simp only [Classical.not_forall, Classical.not_not, exists_prop, ne_eq]

theorem head?_of_part (h : text.head? = some '(') (hp : piece <+: text) (hne : piece ≠ []) :
    piece.head? = some '(' := by
  obtain ⟨c, piece, rfl⟩ := List.exists_cons_of_ne_nil hne
  obtain ⟨behind, rfl⟩ := hp
  exact h

/-- An even piece of a text closes the first `(` in itself. -/
theorem closing?_of_even (h : text.head? = some '(') (hp : piece <+: text) (hne : piece ≠ [])
    (heven : piece.count '(' = piece.count ')') :
    ∃ close, closing? text = some close ∧ close < piece.length := by
  obtain ⟨close, hclose⟩ := Option.ne_none_iff_exists'.1
    ((closing?_ne_none_iff (head?_of_part h hp hne)).2 ⟨piece, List.prefix_rfl, hne, heven⟩)
  obtain ⟨behind, rfl⟩ := hp
  exact ⟨close, closingFrom_append hclose behind, closing?_lt hclose⟩

theorem closing?_take (h : closing? text = some close) :
    closing? (text.take (close + 1)) = some close := by
  have hlt := closing?_lt h
  refine closingFrom_of_append (b := text.drop (close + 1)) ?_ ?_
  · rwa [List.take_append_drop]
  · rw [List.length_take]
    omega

/-- Up to the `)` that closes its first `(`, a text is a group. -/
theorem isGroup_take (h : text.head? = some '(') (hclose : closing? text = some close) :
    IsGroup (text.take (close + 1)) := by
  have hlt := closing?_lt hclose
  have hlen : (text.take (close + 1)).length = close + 1 := by
    rw [List.length_take]
    omega
  have hopens : (text.take (close + 1)).head? = some '(' :=
    head?_of_part h (List.take_prefix _ _) (List.ne_nil_of_length_eq_add_one hlen)
  have hfirst : ∀ piece, piece <+: text.take (close + 1) → piece ≠ [] →
      piece.count '(' = piece.count ')' → piece = text.take (close + 1) := by
    intro piece hp hne heven
    obtain ⟨n, hn, hnlt⟩ := closing?_of_even hopens hp hne heven
    rw [closing?_take hclose] at hn
    obtain rfl := Option.some.inj hn
    exact hp.eq_of_length_le (by omega)
  have hsome : closing? (text.take (close + 1)) ≠ none := by
    rw [closing?_take hclose]
    exact Option.some_ne_none close
  obtain ⟨piece, hp, hne, heven⟩ := (closing?_ne_none_iff hopens).1 hsome
  obtain rfl := hfirst piece hp hne heven
  exact ⟨hopens, heven, hfirst⟩

/-- The first `(` of a group is closed by its last character, whatever stands behind. -/
theorem IsGroup.closing? {group : Text} (h : IsGroup group) (rest : Text) :
    ∃ close, DialogGate.closing? (group ++ rest) = some close ∧ group.length = close + 1 := by
  have hne : group ≠ [] := by
    rintro rfl
    cases h.opens
  obtain ⟨close, hclose, hlt⟩ := closing?_of_even h.opens List.prefix_rfl hne h.even
  -- the group up to this `)` is even, so there is no more of it
  have htake := isGroup_take h.opens hclose
  have hall := h.first _ (List.take_prefix _ _)
    (fun hnil => by rw [hnil] at htake; cases htake.opens) htake.even
  have hlen := congrArg List.length hall
  rw [List.length_take] at hlen
  exact ⟨close, closingFrom_append hclose rest, by omega⟩

end

/-! ## Spellings -/

namespace Operator

/-- The operator with the longest spelling at the front of a text. -/
structure Leads (op : Operator) (text : Text) : Prop where
  spelled : op.symbol <+: text
  longest : ∀ other : Operator, other.symbol <+: text → other.width ≤ op.width

variable {op : Operator} {text : Text}

theorem width_le_two (op : Operator) : op.width ≤ 2 := by
  rcases op with _ | op
  · decide
  · cases op <;> decide

theorem Leads.unique {other : Operator} (h : op.Leads text) (h' : other.Leads text) :
    op = other := by
  have hwidth : op.width = other.width := Nat.le_antisymm (h'.longest op h.spelled)
    (h.longest other h'.spelled)
  exact symbol_injective ((List.prefix_of_prefix_length_le h.spelled h'.spelled
    (Nat.le_of_eq hwidth)).eq_of_length hwidth)

theorem atFront?_eq_none_iff : atFront? text = none ↔ ∀ op : Operator, ¬op.symbol <+: text := by
  constructor
  · rintro h op ⟨rest, rfl⟩
    have hsymbol := atFront?_eq_none_of_append h
    rw [atFront?_symbol] at hsymbol
    cases hsymbol
  · intro h
    cases ho : atFront? text with
    | none => rfl
    | some op => exact absurd (symbol_prefix_of_atFront? ho) (h op)

/-- A spelling of two characters is read before one of a single character. -/
theorem atFront?_of_two (hw : op.width = 2) (h : op.symbol <+: text) : atFront? text = some op := by
  obtain ⟨rest, rfl⟩ := h
  have hop := atFront?_symbol op
  match hs : op.symbol with
  | [] => rw [hs] at hop; cases hop
  | [c] => rw [width, hs] at hw; cases hw
  | c :: d :: s => rw [hs] at hop; exact hop

theorem leads_of_atFront? (h : atFront? text = some op) : op.Leads text := by
  refine ⟨symbol_prefix_of_atFront? h, fun other hother => ?_⟩
  by_cases hw : other.width = 2
  · rw [atFront?_of_two hw hother] at h
    exact Nat.le_of_eq (congrArg width (Option.some.inj h))
  · have hle := other.width_le_two
    have hpos := op.width_pos
    omega

theorem atFront?_eq_some_iff : atFront? text = some op ↔ op.Leads text := by
  refine ⟨leads_of_atFront?, fun h => ?_⟩
  cases ho : atFront? text with
  | none => exact absurd h.spelled (atFront?_eq_none_iff.1 ho op)
  | some other => rw [h.unique (leads_of_atFront? ho)]

end Operator

namespace Occurrence

/-! ## Steps -/

/-- A scan goes so many characters further from the front of a text. -/
inductive Step : Text → Nat → Prop
  | group {group rest : Text} : IsGroup group → Step (group ++ rest) group.length
  | operator {text : Text} {op : Operator} : op.Leads text → Step text op.width
  | other {c : Char} {rest : Text} : c ≠ '(' → (∀ op : Operator, ¬op.symbol <+: c :: rest) →
      Step (c :: rest) 1

/-- The offsets that a scan stops at. -/
inductive Reached (text : Text) : Nat → Prop
  | front : Reached text 0
  | step {i n : Nat} : Reached text i → Step (text.drop i) n → Reached text (i + n)

/-- The operator at this offset stands outside parentheses. -/
structure IsOutside (text : Text) (o : Occurrence) : Prop where
  reached : Reached text o.offset
  leads : o.operator.Leads (text.drop o.offset)

/-- Every `(` outside parentheses is closed. -/
def Matched (text : Text) : Prop := ∀ i, Reached text i → ¬Unclosed text i

/-- Every `(` outside parentheses is closed, and these are the operators outside parentheses, from
left to right. -/
structure Lists (text : Text) (found : List Occurrence) : Prop where
  matched : Matched text
  ascending : found.Pairwise (·.offset < ·.offset)
  mem_iff : ∀ o, o ∈ found ↔ IsOutside text o

/-- How far the scan goes from the front of a text. -/
def stride? : Text → Option Nat
  | [] => none
  | '(' :: rest => (closing? ('(' :: rest)).map (· + 1)
  | c :: rest => some (((Operator.atFront? (c :: rest)).map Operator.width).getD 1)

section
variable {text : Text} {n : Nat}

theorem stride?_of_leads {op : Operator} (h : op.Leads text) : stride? text = some op.width := by
  have hop := Operator.atFront?_eq_some_iff.2 h
  cases text with
  | nil => cases hop
  | cons c rest =>
    have hc : c ≠ '(' := Operator.ne_paren_of_atFront? hop
    rw [stride?, hop]
    · rfl
    · exact hc

theorem Step.stride? (h : Step text n) : stride? text = some n := by
  cases h with
  | @group group rest hg =>
    obtain ⟨close, hclose, hlen⟩ := hg.closing? rest
    obtain ⟨inner, rfl⟩ := List.head?_eq_some_iff.1 hg.opens
    rw [List.cons_append] at hclose ⊢
    rw [Occurrence.stride?, hclose, hlen]
    rfl
  | operator hop => exact stride?_of_leads hop
  | other hc hn =>
    rw [Occurrence.stride?, Operator.atFront?_eq_none_iff.2 hn]
    · rfl
    · exact hc

theorem Step.pos (h : Step text n) : 0 < n := by
  cases h with
  | @group group rest hg =>
    obtain ⟨inner, rfl⟩ := List.head?_eq_some_iff.1 hg.opens
    exact Nat.succ_pos _
  | operator hop => exact Operator.width_pos _
  | other hc hn => exact Nat.one_pos

theorem Step.unique {m : Nat} (h : Step text n) (h' : Step text m) : n = m :=
  Option.some.inj (h.stride?.symm.trans h'.stride?)

/-- From a `(` the scan goes behind the `)` that closes it. -/
theorem step_of_closing? {rest : Text} {close : Nat} (h : closing? ('(' :: rest) = some close) :
    Step ('(' :: rest) (close + 1) := by
  have hg : IsGroup (('(' :: rest).take (close + 1)) := isGroup_take rfl h
  have hs := @Step.group _ (('(' :: rest).drop (close + 1)) hg
  have hlt := closing?_lt h
  rwa [List.take_append_drop, List.length_take, Nat.min_eq_left hlt] at hs

theorem Step.le_length (h : Step text n) : n ≤ text.length := by
  cases h with
  | group hg =>
    rw [List.length_append]
    exact Nat.le_add_right _ _
  | operator hop => exact hop.spelled.length_le
  | other hc hn => exact Nat.succ_le_succ (Nat.zero_le _)

/-- The offsets behind the first step are those of what follows it. -/
theorem reached_iff_of_step (h : Step text n) {i : Nat} :
    Reached text i ↔ i = 0 ∨ ∃ j, Reached (text.drop n) j ∧ i = n + j := by
  constructor
  · intro hi
    induction hi with
    | front => exact .inl rfl
    | @step i m _ hm ih =>
      rcases ih with rfl | ⟨j, hj, rfl⟩
      · obtain rfl := h.unique hm
        exact .inr ⟨0, .front, Nat.add_comm ..⟩
      · rw [← List.drop_drop] at hm
        exact .inr ⟨j + m, hj.step hm, Nat.add_assoc ..⟩
  · rintro (rfl | ⟨j, hj, rfl⟩)
    · exact .front
    · induction hj with
      | front =>
        have hn := Reached.front.step h
        rwa [Nat.zero_add] at hn
      | step _ hm ih =>
        rw [List.drop_drop] at hm
        rw [← Nat.add_assoc]
        exact ih.step hm

theorem isOutside_iff_of_step (h : Step text n) {o : Occurrence} :
    IsOutside text o ↔ o.offset = 0 ∧ o.operator.Leads text ∨
      ∃ p, IsOutside (text.drop n) p ∧ o = shift n p := by
  constructor
  · rintro ⟨hr, hl⟩
    rcases (reached_iff_of_step h).1 hr with h0 | ⟨j, hj, hij⟩
    · rw [h0] at hl
      exact .inl ⟨h0, hl⟩
    · refine .inr ⟨⟨o.operator, j⟩, ⟨hj, ?_⟩, ?_⟩
      · rwa [List.drop_drop, ← hij]
      · rw [shift, Nat.add_comm, ← hij]
  · rintro (⟨h0, hl⟩ | ⟨p, ⟨hr, hl⟩, rfl⟩)
    · refine ⟨h0 ▸ .front, ?_⟩
      rwa [h0]
    · have he : (shift n p).offset = n + p.offset := Nat.add_comm ..
      refine ⟨(reached_iff_of_step h).2 (.inr ⟨p.offset, hr, he⟩), ?_⟩
      rwa [he, ← List.drop_drop]

theorem Reached.le_length {i : Nat} (h : Reached text i) : i ≤ text.length := by
  induction h with
  | front => exact Nat.zero_le _
  | step _ hs ih =>
    have hle := hs.le_length
    rw [List.length_drop] at hle
    omega

/-- Every `(` that a step goes over is closed by a `)` that it goes over. -/
theorem Step.closes (h : Step text n) {i : Nat} (hi : i < n) (ho : text[i]? = some '(') :
    ∃ close, DialogGate.closing? (text.drop i) = some close ∧ i + close < n := by
  cases h with
  | @group group rest hg =>
    obtain ⟨close, hclose, hlen⟩ := hg.closing? rest
    cases i with
    | zero => exact ⟨close, hclose, by omega⟩
    | succ i =>
      -- the `(` of the group itself is still open here
      obtain ⟨inner, rfl⟩ := List.head?_eq_some_iff.1 hg.opens
      rw [List.cons_append, DialogGate.closing?, closingFrom] at hclose
      obtain ⟨k, hk, rfl⟩ := Option.map_eq_some_iff.1 hclose
      obtain ⟨behind, hbehind⟩ := getElem?_eq_some_iff_drop.1
        (show (inner ++ rest)[i]? = some '(' from ho)
      obtain ⟨m, hm, hlt⟩ := closed_inside hk Nat.one_pos (by omega) hbehind
      refine ⟨m, ?_, by omega⟩
      rw [List.cons_append, List.drop_succ_cons, hbehind]
      exact hm
  | operator hop =>
    obtain ⟨rest, rfl⟩ := hop.spelled
    rw [List.getElem?_append_left hi] at ho
    exact absurd (symbol_plain _ '(' (List.mem_of_getElem? ho)) (by decide)
  | other hc hn =>
    obtain rfl := Nat.lt_one_iff.1 hi
    exact absurd (Option.some.inj ho) hc

theorem Reached.closes {p i : Nat} (h : Reached text p) (hi : i < p) (ho : text[i]? = some '(') :
    ∃ close, DialogGate.closing? (text.drop i) = some close ∧ i + close < p := by
  induction h with
  | front => exact absurd hi (Nat.not_lt_zero i)
  | @step q n _ hs ih =>
    by_cases hq : i < q
    · obtain ⟨close, hclose, hlt⟩ := ih hq
      exact ⟨close, hclose, by omega⟩
    · obtain ⟨j, rfl⟩ := Nat.exists_eq_add_of_le (Nat.not_lt.1 hq)
      obtain ⟨close, hclose, hlt⟩ := hs.closes (i := j) (by omega) (by rwa [List.getElem?_drop])
      rw [List.drop_drop] at hclose
      exact ⟨close, hclose, by omega⟩

/-- No offset that a scan stops at lies inside a group, wherever the group stands. -/
theorem Reached.not_inside {p i : Nat} {group : Text} (h : Reached text p) (hg : IsGroup group)
    (hi : group <+: text.drop i) : p ≤ i ∨ i + group.length ≤ p := by
  by_cases hp : p ≤ i
  · exact .inl hp
  · obtain ⟨rest, hrest⟩ := hi
    obtain ⟨inner, rfl⟩ := List.head?_eq_some_iff.1 hg.opens
    have ho : text[i]? = some '(' := getElem?_eq_some_iff_drop.2 ⟨inner ++ rest, hrest.symm⟩
    obtain ⟨close, hclose, hlt⟩ := h.closes (Nat.not_le.1 hp) ho
    obtain ⟨last, hlast, hlen⟩ := hg.closing? rest
    rw [hrest, hclose] at hlast
    obtain rfl := Option.some.inj hlast
    exact .inr (by omega)

theorem Step.not_unclosed (h : Step text n) : ¬Unclosed text 0 := by
  intro hu
  obtain ⟨rest, hrest, hnone⟩ := unclosed_iff.1 hu
  have hs := h.stride?
  rw [List.drop_zero] at hrest
  rw [hrest, Occurrence.stride?, hnone] at hs
  cases hs

theorem matched_of_step (h : Step text n) (hm : Matched (text.drop n)) : Matched text := by
  intro i hi
  rcases (reached_iff_of_step h).1 hi with rfl | ⟨j, hj, rfl⟩
  · exact h.not_unclosed
  · exact fun hu => hm j hj (unclosed_drop_iff.2 hu)

/-! ## Scans -/

/-- The operator at the front of a text, if there is one. -/
def front (text : Text) : List Occurrence := ((Operator.atFront? text).map (⟨·, 0⟩)).toList

theorem mem_front_iff {o : Occurrence} :
    o ∈ front text ↔ o.offset = 0 ∧ o.operator.Leads text := by
  obtain ⟨op, i⟩ := o
  rw [front, Option.mem_toList, Option.map_eq_some_iff]
  constructor
  · rintro ⟨_, hop, ⟨⟩⟩
    exact ⟨rfl, Operator.atFront?_eq_some_iff.1 hop⟩
  · rintro ⟨rfl, hl⟩
    exact ⟨op, Operator.atFront?_eq_some_iff.2 hl, rfl⟩

theorem front_ascending (text : Text) : (front text).Pairwise (·.offset < ·.offset) := by
  rw [front]
  cases Operator.atFront? text with
  | none => exact .nil
  | some op => exact List.pairwise_singleton _ _

/-- A scan finds the operator at the front and, moved by the first step, what it finds behind. -/
theorem outside_of_step (h : Step text n) :
    outside 0 text = (moved n (outside 0 (text.drop n))).map (front text ++ ·) := by
  cases h with
  | @group group rest hg =>
    obtain ⟨close, hclose, hlen⟩ := hg.closing? rest
    obtain ⟨inner, rfl⟩ := List.head?_eq_some_iff.1 hg.opens
    rw [List.cons_append] at hclose ⊢
    have hnone : Operator.atFront? ('(' :: (inner ++ rest)) = none := by
      cases hop : Operator.atFront? ('(' :: (inner ++ rest)) with
      | none => rfl
      | some op => exact absurd rfl (Operator.ne_paren_of_atFront? hop)
    rw [front, hnone, hlen, outside_group hclose, Nat.zero_add, outside_eq_moved,
      List.drop_succ_cons]
    cases outside 0 ((inner ++ rest).drop close) <;> rfl
  | operator hop =>
    have hfront := Operator.atFront?_eq_some_iff.2 hop
    rw [front, hfront, outside_operator hfront, Nat.zero_add, outside_eq_moved]
    rfl
  | @other c rest hc hn =>
    have hnone := Operator.atFront?_eq_none_iff.2 hn
    rw [front, hnone, outside_skip hc hnone, Nat.zero_add, outside_eq_moved, List.drop_one,
      List.tail_cons]
    cases outside 0 rest <;> rfl

/-- What the result of a scan says: the operators outside parentheses, or a `(` that stands outside
parentheses and is never closed. -/
def Found (text : Text) : Except Nat (List Occurrence) → Prop
  | .ok found => Lists text found
  | .error position => Reached text position ∧ Unclosed text position

theorem Found.of_step {result : Except Nat (List Occurrence)} (h : Step text n)
    (hr : Found (text.drop n) result) : Found text ((moved n result).map (front text ++ ·)) := by
  cases result with
  | error position =>
    obtain ⟨hreached, hu⟩ := hr
    rw [unclosed_drop_iff, Nat.add_comm] at hu
    exact ⟨(reached_iff_of_step h).2 (.inr ⟨position, hreached, Nat.add_comm ..⟩), hu⟩
  | ok found =>
    have hpos := h.pos
    refine ⟨matched_of_step h hr.matched,
      List.pairwise_append.2 ⟨front_ascending text, ?_, ?_⟩, fun o => ?_⟩
    · exact List.pairwise_map.2 (hr.ascending.imp fun hlt => Nat.add_lt_add_right hlt n)
    · intro a ha b hb
      obtain ⟨p, -, rfl⟩ := List.mem_map.1 hb
      have h0 := (mem_front_iff.1 ha).1
      show a.offset < p.offset + n
      omega
    · rw [List.mem_append, mem_front_iff, isOutside_iff_of_step h, List.mem_map]
      refine or_congr_right (exists_congr fun p => ?_)
      rw [hr.mem_iff, eq_comm (a := o)]

theorem lists_nil : Lists [] [] := by
  refine ⟨fun i _ hu => ?_, .nil, fun o => iff_of_false List.not_mem_nil fun ho => ?_⟩
  · cases hu.opens
  · have hle := ho.leads.spelled.length_le
    rw [List.drop_nil, List.length_nil] at hle
    exact absurd o.operator.width_pos (Nat.not_lt.2 hle)

end

theorem found_of_step {text : Text} {n : Nat} (h : Step text n)
    (hr : Found (text.drop n) (outside 0 (text.drop n))) : Found text (outside 0 text) := by
  rw [outside_of_step h]
  exact hr.of_step h

/-- A scan lists the operators outside parentheses, or it reports a `(` that is never closed. -/
theorem found_outside (text : Text) : Found text (outside 0 text) := by
  induction text using scan_induction with
  | nil =>
    rw [outside_nil]
    exact lists_nil
  | group rest close hclose ih => exact found_of_step (step_of_closing? hclose) ih
  | unclosed rest hclose =>
    rw [outside_unclosed hclose]
    exact ⟨.front, unclosed_iff.2 ⟨rest, rfl, hclose⟩⟩
  | operator text op hop ih => exact found_of_step (.operator (Operator.leads_of_atFront? hop)) ih
  | skip c rest hc hop ih => exact found_of_step (.other hc (Operator.atFront?_eq_none_iff.1 hop)) ih

variable {text : Text} {found : List Occurrence}

theorem lists_outside (h : outside 0 text = .ok found) : Lists text found := by
  have hfound := found_outside text
  rwa [h] at hfound

theorem Matched.exists_outside (h : Matched text) :
    ∃ found, outside 0 text = .ok found ∧ Lists text found := by
  have hfound := found_outside text
  cases ho : outside 0 text with
  | ok found => exact ⟨found, rfl, lists_outside ho⟩
  | error position =>
    rw [ho] at hfound
    exact absurd hfound.2 (h position hfound.1)

end Occurrence

end DialogGate
