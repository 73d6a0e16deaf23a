import DialogGate.Proofs.Text.FirstOccurrence

/-! # Slices of a text in UTF-8

Offsets into a text count characters. A program that keeps a text in UTF-8 counts bytes, and can
take a part out of it only between two bounds that are in order, inside the text, and not inside a
character: `slice` fails on all others. `slice_byteOffset` says that bounds which are the byte
offsets of characters never fail, and give the same part.
-/

namespace DialogGate.Text

/-- How many bytes a text takes up. -/
def byteLength : Text → Nat
  | [] => 0
  | c :: rest => c.utf8Size + byteLength rest

/-- The byte offset of a character offset. -/
def byteOffset (text : Text) (n : Nat) : Nat := byteLength (text.take n)

/-- The bounds of a slice that a text does not have. -/
structure BadSlice where
  start : Nat
  stop : Nat
  deriving DecidableEq, Repr

/-- A text in two parts, the first one of a given number of bytes. There are none if the text has
fewer bytes, or if a character would be cut. -/
def splitBytes? : Nat → Text → Option (Text × Text)
  | 0, text => some ([], text)
  | _ + 1, [] => none
  | n + 1, c :: rest =>
    if c.utf8Size ≤ n + 1 then (splitBytes? (n + 1 - c.utf8Size) rest).map (prepend [c]) else none

/-- The part of a text from the byte `start` up to the byte `stop`. -/
def slice (start stop : Nat) (text : Text) : Except BadSlice Text :=
  match splitBytes? start text with
  | none => .error ⟨start, stop⟩
  | some (_, behind) =>
    if start ≤ stop then
      match splitBytes? (stop - start) behind with
      | none => .error ⟨start, stop⟩
      | some (inside, _) => .ok inside
    else .error ⟨start, stop⟩

@[simp] theorem byteLength_nil : byteLength [] = 0 := rfl

@[simp] theorem byteLength_cons (c : Char) (text : Text) :
    byteLength (c :: text) = c.utf8Size + byteLength text := rfl

@[simp] theorem byteLength_append (a b : Text) :
    byteLength (a ++ b) = byteLength a + byteLength b := by
  induction a with
  | nil => simp
  | cons c a ih => simp [ih, Nat.add_assoc]

/-! ## Parts of a text -/

/-- The text before `n`, in two parts. -/
theorem take_append_extract (text : Text) {m n : Nat} (h : m ≤ n) :
    text.take m ++ text.extract m n = text.take n := by
  rw [List.extract_eq_take_drop, ← List.take_add, Nat.add_sub_cancel' h]

/-- The text from `m` on, in two parts. -/
theorem extract_append_drop (text : Text) {m n : Nat} (h : m ≤ n) :
    text.extract m n ++ text.drop n = text.drop m := by
  rw [List.extract_eq_take_drop, ← Nat.add_sub_cancel' h, ← List.drop_drop, Nat.add_sub_cancel_left,
    List.take_append_drop]

theorem length_extract {text : Text} {m n : Nat} (h : n ≤ text.length) :
    (text.extract m n).length = n - m := by
  rw [List.extract_eq_take_drop, List.length_take, List.length_drop]
  omega

/-! ## Slices -/

theorem splitBytes?_append (a b : Text) : splitBytes? (byteLength a) (a ++ b) = some (a, b) := by
  induction a with
  | nil => cases b <;> rfl
  | cons c a ih =>
    have hpos := Char.utf8Size_pos c
    obtain ⟨n, hn⟩ : ∃ n, c.utf8Size + byteLength a = n + 1 :=
      ⟨c.utf8Size + byteLength a - 1, by omega⟩
    rw [byteLength_cons, hn, List.cons_append, splitBytes?, if_pos (by omega), ← hn,
      Nat.add_sub_cancel_left, ih]
    rfl

theorem slice_append (a b c : Text) :
    slice (byteLength a) (byteLength (a ++ b)) (a ++ (b ++ c)) = .ok b := by
  rw [slice, splitBytes?_append, byteLength_append]
  simp only [Nat.le_add_right, if_true, Nat.add_sub_cancel_left, splitBytes?_append]

section
variable {text : Text} {m n : Nat}

/-- Between the byte offsets of two characters of a text, in order, there is always a slice. -/
theorem slice_byteOffset (text : Text) (h : m ≤ n) :
    slice (byteOffset text m) (byteOffset text n) text = .ok (text.extract m n) := by
  have htext : text = text.take m ++ (text.extract m n ++ text.drop n) := by
    rw [extract_append_drop text h, List.take_append_drop]
  conv => lhs; arg 3; rw [htext]
  rw [byteOffset, byteOffset, ← take_append_extract text h, slice_append]

theorem slice_byteOffset_end (h : n ≤ text.length) :
    slice (byteOffset text n) (byteLength text) text = .ok (text.drop n) := by
  have hend := slice_byteOffset text h
  have hall : text.extract n text.length = text.drop n := by
    rw [List.extract_eq_take_drop, ← List.length_drop, List.take_length]
  rwa [byteOffset, byteOffset, List.take_length, hall] at hend

theorem byteOffset_add (text : Text) (m k : Nat) :
    byteOffset text (m + k) = byteOffset text m + byteOffset (text.drop m) k := by
  rw [byteOffset, List.take_add, byteLength_append]
  rfl

theorem byteOffset_le (text : Text) (h : m ≤ n) : byteOffset text m ≤ byteOffset text n := by
  obtain ⟨k, rfl⟩ := Nat.exists_eq_add_of_le h
  rw [byteOffset_add]
  exact Nat.le_add_right _ _

/-- Offsets inside a text are ordered in the same way, counted in bytes or in characters. -/
theorem byteOffset_lt_iff (hn : n ≤ text.length) :
    byteOffset text m < byteOffset text n ↔ m < n := by
  have hstep (i j : Nat) (hj : j ≤ text.length) (h : i < j) :
      byteOffset text i < byteOffset text j := by
    obtain ⟨k, rfl⟩ := Nat.exists_eq_add_of_lt h
    obtain ⟨c, rest, hd⟩ : ∃ c rest, text.drop i = c :: rest :=
      List.exists_cons_of_length_pos (by rw [List.length_drop]; omega)
    have hpos := Char.utf8Size_pos c
    rw [Nat.add_assoc, byteOffset_add, hd, byteOffset, byteOffset, List.take_succ_cons,
      byteLength_cons]
    omega
  constructor
  · intro h
    refine Nat.lt_of_not_le fun hle => ?_
    have := byteOffset_le text hle
    omega
  · intro h
    exact hstep m n hn h

end

/-- A bound inside a character. -/
example : slice 0 1 ['é'] = .error ⟨0, 1⟩ := rfl

end DialogGate.Text
