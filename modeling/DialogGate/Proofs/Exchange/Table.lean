import DialogGate.Proofs.Exchange.Shape
import DialogGate.Proofs.Json.Keys
import DialogGate.Proofs.Text.Numeral

/-! # What a table holds

A table that is read from an array has the numbers of the array at their positions, and one that is
read from an object has, for each index that a key denotes, the number under the greatest of the keys
for it. Many keys denote one index (`Denotes`), and the fields of an object stand in the order of
their keys: so the greatest key is that of the last field (`get?_addFields`).
-/

namespace DialogGate

/-! ## Keys -/

/-- Without the white space around it, the key is the index in ASCII digits, with or without a plus
sign. -/
structure Denotes (key : Text) (index : Nat) : Prop where
  spelled : ∃ digits, (Text.trim key = digits ∨ Text.trim key = '+' :: digits) ∧ digits ≠ [] ∧
    Text.IsDigits digits ∧ Nat.ofDigitChars 10 digits 0 = index
  bounded : index ≤ Store.lastIndex

theorem unplus_cases (text : Text) : text = unplus text ∨ text = '+' :: unplus text := by
  fun_cases unplus text with
  | case1 rest => exact .inr rfl
  | case2 text _ => exact .inl rfl

theorem unplus_eq_self {digits : Text} (h : Text.IsDigits digits) : unplus digits = digits := by
  rw [unplus]
  rintro rest rfl
  exact absurd (h '+' (.head _)) (by decide)

theorem keyIndex?_eq_some_iff {key : Text} {index : Nat} :
    keyIndex? key = some index ↔ Denotes key index := by
  simp only [keyIndex?, Option.ite_none_left_eq_some, List.isEmpty_iff, Option.filter_eq_some_iff,
    Text.natOf?_eq_some_iff, decide_eq_true_eq]
  constructor
  · rintro ⟨hne, ⟨hdigits, hindex⟩, hle⟩
    exact ⟨⟨_, unplus_cases _, hne, hdigits, hindex.symm⟩, hle⟩
  · rintro ⟨⟨digits, hkey, hne, hdigits, hindex⟩, hle⟩
    have hunplus : unplus (Text.trim key) = digits := by
      rcases hkey with hkey | hkey
      · rw [hkey, unplus_eq_self hdigits]
      · rw [hkey, unplus]
    rw [hunplus]
    exact ⟨hne, ⟨hdigits, hindex.symm⟩, hle⟩

namespace Json

/-- A number as a double. -/
def number? : Json → Option Binary64
  | number n => some n.toBinary64
  | _ => none

theorem number?_eq_some_iff {j : Json} {x : Binary64} :
    j.number? = some x ↔ ∃ n, j = number n ∧ x = n.toBinary64 := by
  cases j <;> simp [number?, eq_comm]

theorem IsNumber.exists_number? {j : Json} (h : j.IsNumber) : ∃ x, j.number? = some x := by
  obtain ⟨n, rfl⟩ := h
  exact ⟨_, rfl⟩

end Json

namespace Table

variable {t t' : Table}

/-! ## Arrays -/

theorem addItems_cons_eq_ok {start : Nat} {j : Json} {items : List Json}
    (h : t.addItems start (j :: items) = .ok t') :
    j.number? = none ∧ t.addItems (start + 1) items = .ok t' ∨
      ∃ x, j.number? = some x ∧ (t.insert start x).addItems (start + 1) items = .ok t' := by
  cases j with
  | null => exact .inl ⟨rfl, h⟩
  | number n => exact .inr ⟨_, rfl, h⟩
  | _ => cases h

/-- Items set no variable in front of their positions. -/
theorem get?_addItems_of_lt {start i : Nat} {items : List Json}
    (h : t.addItems start items = .ok t') (hi : i < start) : t'.get? i = t.get? i := by
  induction items generalizing t start with
  | nil => rw [Except.ok.inj h]
  | cons j items ih =>
    rcases addItems_cons_eq_ok h with ⟨-, h⟩ | ⟨x, -, h⟩
    · exact ih h (Nat.lt_succ_of_lt hi)
    · rw [ih h (Nat.lt_succ_of_lt hi), get?_insert_of_ne _ (Nat.ne_of_lt hi)]

theorem get?_addItems {start : Nat} {items : List Json} (h : t.addItems start items = .ok t')
    (k : Nat) : t'.get? (start + k) = (items[k]?.bind Json.number?).or (t.get? (start + k)) := by
  induction items generalizing t start k with
  | nil => rw [Except.ok.inj h]; rfl
  | cons j items ih =>
    cases k with
    | zero =>
      rw [Nat.add_zero, List.getElem?_cons_zero, Option.bind_some]
      rcases addItems_cons_eq_ok h with ⟨hj, h⟩ | ⟨x, hj, h⟩
      · rw [get?_addItems_of_lt h (Nat.lt_succ_self _), hj, Option.none_or]
      · rw [get?_addItems_of_lt h (Nat.lt_succ_self _), hj, get?_insert_self, Option.some_or]
    | succ k =>
      rw [List.getElem?_cons_succ, ← Nat.add_assoc, Nat.add_right_comm]
      rcases addItems_cons_eq_ok h with ⟨-, h⟩ | ⟨x, -, h⟩
      · exact ih h k
      · rw [ih h, get?_insert_of_ne]
        omega

/-! ## Objects -/

/-- What a search from the end finds, and what it passed on its way. -/
theorem findSome?_reverse_eq_some_iff {α β : Type} {f : α → Option β} {l : List α} {b : β} :
    l.reverse.findSome? f = some b ↔
      ∃ front a behind, l = front ++ a :: behind ∧ f a = some b ∧ ∀ c ∈ behind, f c = none := by
  rw [List.findSome?_eq_some_iff]
  constructor
  · rintro ⟨behind, a, front, hl, ha, hnone⟩
    exact ⟨front.reverse, a, behind.reverse, by simpa using congrArg List.reverse hl, ha,
      by simpa using hnone⟩
  · rintro ⟨front, a, behind, rfl, ha, hnone⟩
    exact ⟨behind.reverse, a, front.reverse, by simp, ha, by simpa using hnone⟩

/-- The number that a field sets a variable to. -/
def setting? (index : Nat) (f : Text × Json) : Option Binary64 :=
  if keyIndex? f.1 = some index then f.2.number? else none

theorem setting?_eq_some_iff {index : Nat} {f : Text × Json} {x : Binary64} :
    setting? index f = some x ↔ Denotes f.1 index ∧ f.2.number? = some x := by
  rw [setting?, Option.ite_none_right_eq_some, keyIndex?_eq_some_iff]

theorem addFields_cons_eq_ok {key : Text} {item : Json} {fields : Json.Fields}
    (h : t.addFields ((key, item) :: fields) = .ok t') :
    ∃ index x, keyIndex? key = some index ∧ item.number? = some x ∧
      (t.insert index x).addFields fields = .ok t' := by
  cases hk : keyIndex? key with
  | none =>
    rw [addFields, hk] at h
    cases h
  | some index =>
    rw [addFields_cons hk] at h
    cases item with
    | number n => exact ⟨index, _, rfl, rfl, h⟩
    | _ => cases h

/-- The last field for an index is the one that counts. -/
theorem get?_addFields {fields : Json.Fields} (h : t.addFields fields = .ok t') (index : Nat) :
    t'.get? index = (fields.reverse.findSome? (setting? index)).or (t.get? index) := by
  induction fields generalizing t with
  | nil => rw [Except.ok.inj h]; rfl
  | cons f fields ih =>
    obtain ⟨i, x, hi, hx, h⟩ := addFields_cons_eq_ok h
    rw [ih h, List.reverse_cons, List.findSome?_append, Option.or_assoc]
    congr 1
    rw [List.findSome?_singleton, setting?, hi]
    by_cases he : i = index
    · rw [he, get?_insert_self, if_pos rfl, hx]
      rfl
    · rw [get?_insert_of_ne _ (Ne.symm he), if_neg fun hs => he (Option.some.inj hs)]
      rfl

/-! ## Tables -/

/-- The value has an entry for the variable: an item that is not `null`, or a field with a key for
the index. -/
inductive Names : Json → Nat → Prop
  | item {items : List Json} {index : Nat} {j : Json} : items[index]? = some j → j ≠ .null →
      Names (.array items) index
  | field {fields : Json.Fields} {index : Nat} {f : Text × Json} : f ∈ fields →
      Denotes f.1 index → Names (.object fields) index

/-- The number that the value sets the variable to: that of the item, or that of the field with the
greatest key for the index. -/
inductive Sets : Json → Nat → Binary64 → Prop
  | item {items : List Json} {index : Nat} {n : JsonNumber} :
      items[index]? = some (.number n) → Sets (.array items) index n.toBinary64
  | field {fields : Json.Fields} {index : Nat} {key : Text} {n : JsonNumber} :
      (key, .number n) ∈ fields → Denotes key index →
      (∀ f ∈ fields, Denotes f.1 index → Text.utf8 f.1 ≤ Text.utf8 key) →
      Sets (.object fields) index n.toBinary64

section
variable {items : List Json} {fields : Json.Fields} {index : Nat} {x : Binary64}

theorem get?_array (h : empty.addItems 0 items = .ok t) (index : Nat) :
    t.get? index = items[index]?.bind Json.number? := by
  have hget := get?_addItems h index
  rwa [Nat.zero_add, get?_empty, Option.or_none] at hget

theorem get?_array_eq_some_iff (h : empty.addItems 0 items = .ok t) :
    t.get? index = some x ↔ Sets (.array items) index x := by
  rw [get?_array h, Option.bind_eq_some_iff]
  constructor
  · rintro ⟨j, hj, hx⟩
    obtain ⟨n, rfl, rfl⟩ := Json.number?_eq_some_iff.1 hx
    exact .item hj
  · rintro ⟨hj⟩
    exact ⟨_, hj, rfl⟩

theorem exists_get?_array_iff (h : empty.addItems 0 items = .ok t)
    (hitems : ∀ j ∈ items, j.IsItem) : (∃ x, t.get? index = some x) ↔ Names (.array items) index := by
  simp only [get?_array_eq_some_iff h]
  constructor
  · rintro ⟨_, hj⟩
    cases hj with
    | item hj => exact .item hj (by simp)
  · rintro ⟨hj, hne⟩
    obtain ⟨n, rfl⟩ := (hitems _ (List.mem_of_getElem? hj)).resolve_left hne
    exact ⟨_, .item hj⟩

theorem get?_object (h : empty.addFields fields = .ok t) (index : Nat) :
    t.get? index = fields.reverse.findSome? (setting? index) := by
  have hget := get?_addFields h index
  rwa [get?_empty, Option.or_none] at hget

theorem exists_get?_object_iff (h : empty.addFields fields = .ok t)
    (hfields : ∀ f ∈ fields, Json.IsField f) :
    (∃ x, t.get? index = some x) ↔ Names (.object fields) index := by
  rw [get?_object h, ← Option.isSome_iff_exists, List.findSome?_isSome_iff]
  simp only [Option.isSome_iff_exists, setting?_eq_some_iff, List.mem_reverse]
  constructor
  · rintro ⟨f, hf, x, hd, -⟩
    exact .field hf hd
  · intro hnames
    cases hnames with
    | field hf hd =>
      obtain ⟨x, hx⟩ := (hfields _ hf).2.exists_number?
      exact ⟨_, hf, x, hd, hx⟩

/-- In ascending order, the last field for an index has the greatest key. -/
theorem get?_object_eq_some_iff (h : empty.addFields fields = .ok t)
    (hfields : ∀ f ∈ fields, Json.IsField f) (hasc : Json.Fields.Ascending fields) :
    t.get? index = some x ↔ Sets (.object fields) index x := by
  rw [get?_object h, findSome?_reverse_eq_some_iff]
  constructor
  · rintro ⟨front, ⟨key, item⟩, behind, rfl, hset, hnone⟩
    obtain ⟨hd, hx⟩ := setting?_eq_some_iff.1 hset
    obtain ⟨n, rfl, rfl⟩ := Json.number?_eq_some_iff.1 hx
    refine .field (List.mem_append_right _ (.head _)) hd fun f hf hfd => ?_
    obtain ⟨y, hy⟩ := (hfields f hf).2.exists_number?
    have hset : setting? index f = some y := setting?_eq_some_iff.2 ⟨hfd, hy⟩
    rcases List.mem_append.1 hf with hf | hf
    · exact List.le_of_lt (hasc.lt_of_mem_front hf)
    · rcases List.mem_cons.1 hf with rfl | hf
      · exact List.le_refl _
      · rw [hnone f hf] at hset
        cases hset
  · intro hsets
    cases hsets with
    | @field _ _ key n hf hd hgreatest =>
      obtain ⟨front, behind, rfl⟩ := List.append_of_mem hf
      refine ⟨front, (key, .number n), behind, rfl, setting?_eq_some_iff.2 ⟨hd, rfl⟩,
        fun f hb => ?_⟩
      have hlt := hasc.lt_of_mem_behind hb
      rw [setting?, if_neg]
      intro hk
      have hle := hgreatest f (by simp [hb]) (keyIndex?_eq_some_iff.1 hk)
      exact List.not_lt.2 hle hlt

end

theorem exists_ofJson_iff {v : Json} : (∃ t, ofJson v = .ok t) ↔ IsTable v := by
  refine ⟨fun ⟨t, ht⟩ => ?_, IsTable.exists_ok⟩
  rcases isTable_or_fault v with hv | ⟨x, hx⟩
  · exact hv
  · rw [hx.error] at ht
    cases ht

/-- A value is read as a table exactly if it is one, and the table then holds exactly the numbers
that the value sets variables to. Any other value is refused with the fault that it has: in the order
of the entries the first one that does not fit, and its key before its number. -/
theorem ofJson_exact (v : Json) (h : v.KeysAscend) :
    (∀ key index, keyIndex? key = some index ↔ Denotes key index) ∧
      ((∃ t, ofJson v = .ok t) ↔ IsTable v) ∧
      (∀ t, ofJson v = .ok t → ∀ index,
        ((∃ x, t.get? index = some x) ↔ Names v index) ∧
          ∀ x, t.get? index = some x ↔ Sets v index x) ∧
      ∀ e, ofJson v = .error e ↔ Fault v e := by
  refine ⟨fun key index => keyIndex?_eq_some_iff, exists_ofJson_iff, fun t ht index => ?_,
    fun e => ofJson_eq_error_iff⟩
  cases exists_ofJson_iff.1 ⟨t, ht⟩ with
  | null =>
    obtain rfl := Except.ok.inj ht
    exact ⟨iff_of_false (fun ⟨x, hx⟩ => by cases hx) nofun, fun x => iff_of_false nofun nofun⟩
  | array hitems =>
    exact ⟨exists_get?_array_iff ht hitems, fun x => get?_array_eq_some_iff ht⟩
  | object hfields =>
    exact ⟨exists_get?_object_iff ht hfields, fun x => get?_object_eq_some_iff ht hfields h⟩

/-- One index in four keys. -/
def spellings : Json.Fields :=
  [(" 3".toList, .number (.whole 1)), ("+3".toList, .number (.whole 2)),
    ("03".toList, .number (.whole 3)), ("3".toList, .number (.whole 4))]

theorem ofJson_exact_spellings : Json.KeysAscend (.object spellings) ∧
    ∃ t, ofJson (.object spellings) = .ok t ∧ t.get? 3 = some (.ofInt 4) := by
  have hasc : Json.KeysAscend (.object spellings) := Json.keysAscend_ofFields spellings
  obtain ⟨t, ht⟩ : ∃ t, ofJson (.object spellings) = .ok t := ⟨_, rfl⟩
  obtain ⟨hkey, -, hget, -⟩ := ofJson_exact (.object spellings) hasc
  have hmem : ("3".toList, Json.number (.whole 4)) ∈ spellings := by simp [spellings]
  have hdenotes : Denotes "3".toList 3 := (hkey _ 3).1 (by decide)
  have hgreatest : ∀ f ∈ spellings, Text.utf8 f.1 ≤ Text.utf8 "3".toList := by
    simp only [spellings, List.forall_mem_cons]
    decide
  exact ⟨hasc, t, ht, ((hget t ht 3).2 _).2 (.field hmem hdenotes fun f hf _ => hgreatest f hf)⟩

end Table

end DialogGate
