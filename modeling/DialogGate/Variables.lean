import DialogGate.Binary64.Basic

/-! # Game variables

A condition reads the game's variables through a `Store`: a number for every index. A `Table` is a
finite store that can be changed; an index without an entry reads as zero. Indices are 64-bit words.

* `get?_insert_self`, `get?_insert_of_ne`, `get?_erase`: what each change does to each index.
* `get?_eq_some_iff`: a table holds exactly its entries.
-/

namespace DialogGate

/-- The numbers that a condition can read, by index. -/
abbrev Store := Nat → Binary64

namespace Store

/-- The largest index, `2 ^ 64 - 1`. -/
def lastIndex : Nat := 0xFFFFFFFFFFFFFFFF

/-- Every variable is zero. -/
def zero : Store := fun _ => Binary64.ofNat 0

/-- Every variable is its own index. -/
def identity : Store := Binary64.ofNat

/-- The variables given in order, and zero for the rest. -/
def ofList (xs : List Binary64) : Store := fun i => xs.getD i (Binary64.ofNat 0)

end Store

/-- Variables that have been set, in ascending order of their indices. -/
structure Table where
  entries : List (Nat × Binary64)
  ascending : entries.Pairwise (·.1 < ·.1)

namespace Table

/-- No variable has been set. -/
def empty : Table := ⟨[], .nil⟩

/-- The entry of a list at an index. -/
def find? (index : Nat) : List (Nat × Binary64) → Option Binary64
  | [] => none
  | (i, x) :: rest => if i = index then some x else find? index rest

/-- Puts an entry into an ascending list, in the place of the one at its index if there is one. -/
def put (index : Nat) (value : Binary64) : List (Nat × Binary64) → List (Nat × Binary64)
  | [] => [(index, value)]
  | (i, x) :: rest =>
    if index < i then (index, value) :: (i, x) :: rest
    else if index = i then (index, value) :: rest
    else (i, x) :: put index value rest

theorem mem_put {index : Nat} {value : Binary64} {l : List (Nat × Binary64)} {e : Nat × Binary64}
    (h : e ∈ put index value l) : e = (index, value) ∨ e ∈ l := by
  fun_induction put index value l with
  | case1 => simpa using h
  | case2 i x rest _ => exact List.mem_cons.1 h
  | case3 x rest _ =>
    rcases List.mem_cons.1 h with h | h
    · exact .inl h
    · exact .inr (.tail _ h)
  | case4 i x rest _ _ ih =>
    rcases List.mem_cons.1 h with rfl | h
    · exact .inr (.head _)
    · exact (ih h).imp id (.tail _)

theorem put_ascending {index : Nat} {value : Binary64} {l : List (Nat × Binary64)}
    (h : l.Pairwise (·.1 < ·.1)) : (put index value l).Pairwise (·.1 < ·.1) := by
  fun_induction put index value l with
  | case1 => exact List.pairwise_singleton _ _
  | case2 i x rest hi =>
    refine List.pairwise_cons.2 ⟨fun e he => ?_, h⟩
    rcases List.mem_cons.1 he with rfl | he
    · exact hi
    · exact Nat.lt_trans hi ((List.pairwise_cons.1 h).1 e he)
  | case3 x rest _ => exact List.pairwise_cons.2 (List.pairwise_cons.1 h)
  | case4 i x rest hi hne ih =>
    refine List.pairwise_cons.2 ⟨fun e he => ?_, ih (List.pairwise_cons.1 h).2⟩
    rcases mem_put he with rfl | he
    · exact Nat.lt_of_le_of_ne (Nat.not_lt.1 hi) (Ne.symm hne)
    · exact (List.pairwise_cons.1 h).1 e he

/-- The number that a variable has been set to. -/
def get? (t : Table) (index : Nat) : Option Binary64 := find? index t.entries

/-- Sets a variable. -/
def insert (t : Table) (index : Nat) (value : Binary64) : Table :=
  ⟨put index value t.entries, put_ascending t.ascending⟩

/-- Forgets a variable. -/
def erase (t : Table) (index : Nat) : Table :=
  ⟨t.entries.filter (·.1 ≠ index), t.ascending.filter _⟩

/-- Reads the table as a store: zero where nothing has been set. -/
def store (t : Table) : Store := fun i => (t.get? i).getD (Binary64.ofNat 0)

theorem get?_empty (i : Nat) : empty.get? i = none := rfl

theorem find?_put_self (i : Nat) (x : Binary64) (l : List (Nat × Binary64)) :
    find? i (put i x l) = some x := by
  fun_induction put i x l with
  | case1 => simp [find?]
  | case2 => simp [find?]
  | case3 => simp [find?]
  | case4 j y rest h h' ih =>
    rw [find?, if_neg (Ne.symm h'), ih]

theorem find?_put_of_ne {i j : Nat} (h : j ≠ i) (x : Binary64) (l : List (Nat × Binary64)) :
    find? j (put i x l) = find? j l := by
  fun_induction put i x l with
  | case1 => simp [find?, Ne.symm h]
  | case2 => simp [find?, Ne.symm h]
  | case3 => simp [find?, Ne.symm h]
  | case4 k y rest _ _ ih => rw [find?, find?, ih]

theorem find?_filter (i j : Nat) (l : List (Nat × Binary64)) :
    find? j (l.filter (·.1 ≠ i)) = if j = i then none else find? j l := by
  induction l with
  | nil => simp [find?]
  | cons e rest ih =>
    by_cases hi : e.1 = i
    · rw [List.filter_cons_of_neg (by simp [hi]), ih, find?, hi]
      split
      · rfl
      · next hj => rw [if_neg (Ne.symm hj)]
    · rw [List.filter_cons_of_pos (by simp [hi]), find?, find?, ih]
      by_cases hj : e.1 = j
      · simp [hj, show j ≠ i from hj ▸ hi]
      · simp [hj]

theorem get?_insert_self (t : Table) (i : Nat) (x : Binary64) : (t.insert i x).get? i = some x :=
  find?_put_self i x t.entries

theorem get?_insert_of_ne (t : Table) {i j : Nat} (h : j ≠ i) (x : Binary64) :
    (t.insert i x).get? j = t.get? j :=
  find?_put_of_ne h x t.entries

theorem get?_erase (t : Table) (i j : Nat) :
    (t.erase i).get? j = if j = i then none else t.get? j :=
  find?_filter i j t.entries

theorem find?_eq_some_iff {i : Nat} {x : Binary64} {l : List (Nat × Binary64)}
    (h : l.Pairwise (·.1 < ·.1)) : find? i l = some x ↔ (i, x) ∈ l := by
  induction l with
  | nil => simp [find?]
  | cons e rest ih =>
    obtain ⟨hlt, hrest⟩ := List.pairwise_cons.1 h
    rw [find?, List.mem_cons]
    by_cases he : e.1 = i
    · have hn : (i, x) ∉ rest := fun hm => Nat.ne_of_lt (hlt _ hm) he
      simp only [if_pos he, Option.some.injEq, hn, or_false]
      exact ⟨fun hx => by rw [← he, ← hx], fun hx => by rw [← hx]⟩
    · rw [if_neg he, ih hrest]
      refine (or_iff_right fun hx => he ?_).symm
      rw [← hx]

theorem get?_eq_some_iff {t : Table} {i : Nat} {x : Binary64} :
    t.get? i = some x ↔ (i, x) ∈ t.entries :=
  find?_eq_some_iff t.ascending

end Table

end DialogGate
