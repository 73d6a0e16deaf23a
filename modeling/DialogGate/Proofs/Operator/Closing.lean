import DialogGate.Operator.Occurrence

/-! # Closing parentheses

Where a parenthesis is closed depends only on the text up to there: more text behind it changes
nothing (`closingFrom_append`), and neither does taking text away (`closingFrom_of_append`).
A `Balanced` text is passed over at every depth; parentheses around it close each other
(`closing?_enclosed`).
-/

namespace DialogGate

/-- Not a parenthesis. -/
def isPlain (c : Char) : Bool := c ≠ '(' && c ≠ ')'

/-- A character at an offset is the front of the rest of the text there. -/
theorem getElem?_eq_some_iff_drop {text : Text} {i : Nat} {c : Char} :
    text[i]? = some c ↔ ∃ rest, text.drop i = c :: rest := by
  rw [← List.head?_drop, List.head?_eq_some_iff]

theorem closingFrom_cons_plain {c : Char} (h : isPlain c = true) (depth : Nat) (rest : Text) :
    closingFrom depth (c :: rest) = (closingFrom depth rest).map (· + 1) := by
  simp only [isPlain, Bool.and_eq_true, decide_eq_true_eq] at h
  rw [closingFrom]
  · exact h.1
  · exact h.2

theorem closingFrom_append {depth n : Nat} {a : Text} (h : closingFrom depth a = some n) (b : Text) :
    closingFrom depth (a ++ b) = some n := by
  fun_induction closingFrom depth a generalizing n with
  | case1 => simp at h
  | case2 depth rest ih =>
    obtain ⟨k, hk, rfl⟩ := Option.map_eq_some_iff.1 h
    rw [List.cons_append, closingFrom, ih hk, Option.map_some]
  | case3 rest => rw [List.cons_append, closingFrom, if_pos rfl, ← h]
  | case4 depth rest hd ih =>
    obtain ⟨k, hk, rfl⟩ := Option.map_eq_some_iff.1 h
    rw [List.cons_append, closingFrom, if_neg hd, ih hk, Option.map_some]
  | case5 depth c rest h1 h2 ih =>
    obtain ⟨k, hk, rfl⟩ := Option.map_eq_some_iff.1 h
    rw [List.cons_append, closingFrom, ih hk, Option.map_some]
    · exact h1
    · exact h2

theorem closingFrom_of_append {depth n : Nat} {a b : Text}
    (h : closingFrom depth (a ++ b) = some n) (hn : n < a.length) :
    closingFrom depth a = some n := by
  fun_induction closingFrom depth a generalizing n with
  | case1 => simp at hn
  | case2 depth rest ih =>
    rw [List.cons_append, closingFrom] at h
    obtain ⟨k, hk, rfl⟩ := Option.map_eq_some_iff.1 h
    rw [ih hk (by simpa using hn), Option.map_some]
  | case3 rest =>
    rw [List.cons_append, closingFrom, if_pos rfl] at h
    exact h
  | case4 depth rest hd ih =>
    rw [List.cons_append, closingFrom, if_neg hd] at h
    obtain ⟨k, hk, rfl⟩ := Option.map_eq_some_iff.1 h
    rw [ih hk (by simpa using hn), Option.map_some]
  | case5 depth c rest h1 h2 ih =>
    rw [List.cons_append, closingFrom] at h
    · obtain ⟨k, hk, rfl⟩ := Option.map_eq_some_iff.1 h
      rw [ih hk (by simpa using hn), Option.map_some]
    · exact h1
    · exact h2

/-- Text without parentheses behind a text closes nothing. -/
theorem closingFrom_append_plain (depth : Nat) (a : Text) {b : Text}
    (h : ∀ c ∈ b, isPlain c = true) : closingFrom depth (a ++ b) = closingFrom depth a := by
  fun_induction closingFrom depth a with
  | case1 depth =>
    induction b with
    | nil => rfl
    | cons c b ih =>
      rw [List.nil_append, closingFrom_cons_plain (h c (.head _))]
      have := ih fun d hd => h d (.tail _ hd)
      rw [List.nil_append] at this
      rw [this, Option.map_none]
  | case2 depth rest ih => rw [List.cons_append, closingFrom, ih]
  | case3 rest => rw [List.cons_append, closingFrom, if_pos rfl]
  | case4 depth rest hd ih => rw [List.cons_append, closingFrom, if_neg hd, ih]
  | case5 depth c rest h1 h2 ih =>
    rw [List.cons_append, closingFrom, ih]
    · exact h1
    · exact h2

theorem getElem?_closingFrom {depth n : Nat} {text : Text} (h : closingFrom depth text = some n) :
    text[n]? = some ')' := by
  fun_induction closingFrom depth text generalizing n with
  | case1 => cases h
  | case3 rest =>
    obtain rfl := Option.some.inj h
    rfl
  | case2 depth rest ih | case4 depth rest _ ih | case5 depth c rest _ _ ih =>
    obtain ⟨k, hk, rfl⟩ := Option.map_eq_some_iff.1 h
    exact ih hk

/-! ## Balanced texts -/

/-- Behind the text, as many parentheses are open as before it, and in between never fewer. -/
def Balanced (text : Text) : Prop :=
  ∀ depth rest, 0 < depth →
    closingFrom depth (text ++ rest) = (closingFrom depth rest).map (· + text.length)

theorem Balanced.append {a b : Text} (ha : Balanced a) (hb : Balanced b) : Balanced (a ++ b) := by
  intro depth rest hd
  rw [List.append_assoc, ha depth (b ++ rest) hd, hb depth rest hd, Option.map_map,
    List.length_append]
  congr 1
  funext n
  simp only [Function.comp_apply]
  omega

theorem Balanced.of_plain {text : Text} (h : ∀ c ∈ text, isPlain c = true) : Balanced text := by
  intro depth rest _
  induction text with
  | nil => simp
  | cons c text ih =>
    rw [List.cons_append, closingFrom_cons_plain (h c (.head _)),
      ih fun d hd => h d (.tail _ hd), Option.map_map]
    rfl

theorem Balanced.enclosed {text : Text} (h : Balanced text) :
    Balanced ('(' :: text ++ [')']) := by
  intro depth rest hd
  have he : '(' :: text ++ [')'] ++ rest = '(' :: (text ++ ')' :: rest) := by simp
  rw [he, closingFrom, h (depth + 1) _ (Nat.succ_pos _), closingFrom, if_neg (by omega),
    Nat.add_sub_cancel, Option.map_map, Option.map_map]
  congr 1
  funext n
  simp only [Function.comp_apply, List.length_cons, List.length_append, List.length_nil]
  omega

theorem closing?_enclosed {text : Text} (h : Balanced text) (rest : Text) :
    closing? ('(' :: text ++ ')' :: rest) = some (text.length + 1) := by
  rw [closing?, List.cons_append, closingFrom, h _ _ Nat.one_pos, closingFrom, if_pos rfl]
  simp

end DialogGate
