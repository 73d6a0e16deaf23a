import DialogGate.Exchange.Input
import Mathlib.Data.List.Basic

/-! # The shape of an input

Which JSON values are labels, tables and inputs, and what is reported of every other one: the first
entry that does not fit (`FirstMisfit`), and of an object with both labels and variables, the
variables before the labels (`Input.Fault`).

Every decoder is total: it gives either what the shape of the value says or the fault that the value
has (`Input.ofJson_eq_ok_iff`, `Input.ofJson_eq_error_iff`).
-/

namespace DialogGate

variable {x : InputError}

/-! ## The first entry that does not fit -/

/-- At this position stands the first entry that does not fit. -/
structure FirstMisfit {α : Type} (fits : α → Prop) (l : List α) (position : Nat) (bad : α) :
    Prop where
  entry : l[position]? = some bad
  misfit : ¬fits bad
  earlier : ∀ a ∈ l.take position, fits a

namespace FirstMisfit

variable {α : Type} {fits : α → Prop} {a bad : α} {l : List α} {n : Nat}

theorem head (h : ¬fits a) (l : List α) : FirstMisfit fits (a :: l) 0 a :=
  ⟨rfl, h, fun _ hb => (List.not_mem_nil hb).elim⟩

theorem cons (ha : fits a) (h : FirstMisfit fits l n bad) :
    FirstMisfit fits (a :: l) (n + 1) bad where
  entry := h.entry
  misfit := h.misfit
  earlier b hb := by
    rcases List.mem_cons.1 hb with rfl | hb
    · exact ha
    · exact h.earlier b hb

theorem not_nil : ¬FirstMisfit fits [] n bad := fun h => by cases h.entry

theorem of_exists {l : List α} (h : ∃ a ∈ l, ¬fits a) : ∃ n bad, FirstMisfit fits l n bad := by
  induction l with
  | nil => simp at h
  | cons a l ih =>
    by_cases ha : fits a
    · obtain ⟨b, hb, hn⟩ := h
      rcases List.mem_cons.1 hb with rfl | hb
      · exact absurd ha hn
      · obtain ⟨n, bad, hl⟩ := ih ⟨b, hb, hn⟩
        exact ⟨n + 1, bad, hl.cons ha⟩
    · exact ⟨0, a, .head ha l⟩

/-- Either the first entry is the one, or it fits and the one stands behind it. -/
theorem of_cons (h : FirstMisfit fits (a :: l) n bad) :
    n = 0 ∧ bad = a ∧ ¬fits a ∨ fits a ∧ ∃ m, n = m + 1 ∧ FirstMisfit fits l m bad := by
  cases n with
  | zero =>
    obtain rfl := Option.some.inj h.entry
    exact .inl ⟨rfl, rfl, h.misfit⟩
  | succ m =>
    exact .inr ⟨h.earlier a (.head _), m, rfl, h.entry, h.misfit,
      fun b hb => h.earlier b (.tail _ hb)⟩

end FirstMisfit

/-! ## Labels -/

namespace Json

/-- A label. -/
def IsLabel (j : Json) : Prop := ∃ t, j = .string t

/-- An array of labels. -/
def ofLabels (labels : List Text) : Json := .array (labels.map .string)

theorem exists_labels {items : List Json} (h : ∀ j ∈ items, j.IsLabel) :
    ∃ labels : List Text, items = labels.map .string := by
  induction items with
  | nil => exact ⟨[], rfl⟩
  | cons j items ih =>
    obtain ⟨t, rfl⟩ := h j (.head _)
    obtain ⟨labels, rfl⟩ := ih fun i hi => h i (.tail _ hi)
    exact ⟨t :: labels, rfl⟩

end Json

/-- Why a value is no list of labels. -/
inductive LabelsFault : Json → InputError → Prop
  | notAList {j : Json} : (∀ items, j ≠ .array items) → LabelsFault j .notAList
  | label {items : List Json} {n : Nat} {bad : Json} : FirstMisfit Json.IsLabel items n bad →
      LabelsFault (.array items) (.notALabel bad)

theorem labelsOfJson_ofLabels (labels : List Text) :
    labelsOfJson (.ofLabels labels) = .ok labels := by
  show (labels.map Json.string).mapM labelOfJson = .ok labels
  induction labels with
  | nil => rfl
  | cons t labels ih =>
    rw [List.map_cons, List.mapM_cons, ih]
    rfl

theorem LabelsFault.error {j : Json} (h : LabelsFault j x) : labelsOfJson j = .error x := by
  cases h with
  | notAList hj =>
    cases j with
    | array items => exact absurd rfl (hj items)
    | _ => rfl
  | @label items n bad hm =>
    show items.mapM labelOfJson = .error (.notALabel bad)
    induction items generalizing n with
    | nil => exact absurd hm FirstMisfit.not_nil
    | cons j items ih =>
      rw [List.mapM_cons]
      rcases hm.of_cons with ⟨-, rfl, hn⟩ | ⟨⟨t, rfl⟩, m, -, hm⟩
      · cases bad with
        | string t => exact absurd ⟨t, rfl⟩ hn
        | _ => rfl
      · rw [ih hm]
        rfl

theorem labels_or_fault (j : Json) :
    (∃ labels, j = .ofLabels labels) ∨ ∃ x, LabelsFault j x := by
  cases j with
  | array items =>
    by_cases h : ∀ i ∈ items, i.IsLabel
    · obtain ⟨labels, rfl⟩ := Json.exists_labels h
      exact .inl ⟨labels, rfl⟩
    · obtain ⟨n, bad, hm⟩ := FirstMisfit.of_exists (by simpa using h)
      exact .inr ⟨_, .label hm⟩
  | _ => exact .inr ⟨_, .notAList fun _ h => by cases h⟩

/-! ## Tables -/

namespace Json

/-- A number. -/
def IsNumber (j : Json) : Prop := ∃ n, j = .number n

/-- What an array of variables may hold: numbers, and `null` where nothing is set. -/
def IsItem (j : Json) : Prop := j = .null ∨ j.IsNumber

/-- What an object of variables may hold: numbers under keys that denote indices. -/
def IsField (f : Text × Json) : Prop := (∃ index, keyIndex? f.1 = some index) ∧ f.2.IsNumber

end Json

namespace Table

/-- A table of variables. -/
inductive IsTable : Json → Prop
  | null : IsTable .null
  | array {items : List Json} : (∀ j ∈ items, j.IsItem) → IsTable (.array items)
  | object {fields : Json.Fields} : (∀ f ∈ fields, Json.IsField f) → IsTable (.object fields)

/-- Why a value is no table of variables. -/
inductive Fault : Json → InputError → Prop
  | notATable {j : Json} : j ≠ .null → (∀ items, j ≠ .array items) →
      (∀ fields, j ≠ .object fields) → Fault j (.notATable j)
  | item {items : List Json} {n : Nat} {bad : Json} : FirstMisfit Json.IsItem items n bad →
      Fault (.array items) (.notANumber n bad)
  | key {fields : Json.Fields} {n : Nat} {key : Text} {item : Json} :
      FirstMisfit Json.IsField fields n (key, item) → keyIndex? key = none →
      Fault (.object fields) (.notAnIndex key)
  | value {fields : Json.Fields} {n index : Nat} {key : Text} {item : Json} :
      FirstMisfit Json.IsField fields n (key, item) → keyIndex? key = some index →
      Fault (.object fields) (.notANumber index item)

theorem entry_of_not_isNumber {j : Json} (h : ¬j.IsNumber) (index : Nat) :
    entry index j = .error (.notANumber index j) := by
  cases j with
  | number n => exact absurd ⟨n, rfl⟩ h
  | _ => rfl

theorem addItems_cons {j : Json} (h : j ≠ .null) (t : Table) (index : Nat) (items : List Json) :
    t.addItems index (j :: items) =
      (entry index j).bind fun x => (t.insert index x).addItems (index + 1) items := by
  cases j with
  | null => exact absurd rfl h
  | _ => rfl

theorem addFields_cons {key : Text} {index : Nat} (h : keyIndex? key = some index) (t : Table)
    (item : Json) (fields : Json.Fields) :
    t.addFields ((key, item) :: fields) =
      (entry index item).bind fun x => (t.insert index x).addFields fields := by
  rw [addFields, h]
  rfl

theorem addItems_of_misfit {items : List Json} {n : Nat} {bad : Json}
    (h : FirstMisfit Json.IsItem items n bad) (t : Table) (index : Nat) :
    t.addItems index items = .error (.notANumber (index + n) bad) := by
  induction items generalizing t index n with
  | nil => exact absurd h FirstMisfit.not_nil
  | cons j items ih =>
    rcases h.of_cons with ⟨rfl, rfl, hn⟩ | ⟨rfl | ⟨x, rfl⟩, m, rfl, hm⟩
    · obtain ⟨hnull, hnumber⟩ := not_or.1 hn
      rw [addItems_cons hnull, entry_of_not_isNumber hnumber]
      rfl
    · rw [addItems, ih hm, Nat.add_assoc, Nat.add_comm 1 m]
    · rw [addItems_cons (by simp), entry, Except.bind, ih hm, Nat.add_assoc, Nat.add_comm 1 m]

theorem exists_addItems {items : List Json} (h : ∀ j ∈ items, j.IsItem) (t : Table)
    (index : Nat) : ∃ t', t.addItems index items = .ok t' := by
  induction items generalizing t index with
  | nil => exact ⟨t, rfl⟩
  | cons j items ih =>
    have hitems := ih fun i hi => h i (.tail _ hi)
    rcases h j (.head _) with rfl | ⟨x, rfl⟩
    · exact hitems t (index + 1)
    · exact hitems _ (index + 1)

theorem addFields_of_misfit {fields : Json.Fields} {n : Nat} {key : Text} {item : Json}
    (h : FirstMisfit Json.IsField fields n (key, item)) (t : Table) :
    t.addFields fields = .error (match keyIndex? key with
      | none => .notAnIndex key
      | some index => .notANumber index item) := by
  induction fields generalizing t n with
  | nil => exact absurd h FirstMisfit.not_nil
  | cons f fields ih =>
    rcases h.of_cons with ⟨-, rfl, hn⟩ | ⟨⟨⟨index, hi⟩, x, hx⟩, m, -, hm⟩
    · cases hk : keyIndex? key with
      | none => rw [addFields, hk]
      | some index =>
        have hitem : ¬item.IsNumber := fun hx => hn ⟨⟨index, hk⟩, hx⟩
        rw [addFields_cons hk, entry_of_not_isNumber hitem]
        rfl
    · obtain ⟨k, j⟩ := f
      obtain rfl : j = .number x := hx
      rw [addFields_cons hi, entry, Except.bind, ih hm]

theorem exists_addFields {fields : Json.Fields} (h : ∀ f ∈ fields, Json.IsField f) (t : Table) :
    ∃ t', t.addFields fields = .ok t' := by
  induction fields generalizing t with
  | nil => exact ⟨t, rfl⟩
  | cons f fields ih =>
    obtain ⟨k, j⟩ := f
    obtain ⟨⟨index, hi⟩, x, rfl⟩ := h (k, j) (.head _)
    rw [addFields_cons hi]
    exact ih (fun g hg => h g (.tail _ hg)) _

theorem Fault.error {j : Json} (h : Fault j x) : ofJson j = .error x := by
  cases h with
  | notATable hnull harray hobject =>
    cases j with
    | null => exact absurd rfl hnull
    | array items => exact absurd rfl (harray items)
    | object fields => exact absurd rfl (hobject fields)
    | _ => rfl
  | item hm =>
    rw [ofJson, addItems_of_misfit hm, Nat.zero_add]
  | key hm hk => rw [ofJson, addFields_of_misfit hm, hk]
  | value hm hk => rw [ofJson, addFields_of_misfit hm, hk]

theorem IsTable.exists_ok {j : Json} (h : IsTable j) : ∃ t, ofJson j = .ok t := by
  cases h with
  | null => exact ⟨empty, rfl⟩
  | array h => exact exists_addItems h empty 0
  | object h => exact exists_addFields h empty

theorem isTable_or_fault (j : Json) : IsTable j ∨ ∃ x, Fault j x := by
  cases j with
  | null => exact .inl .null
  | array items =>
    by_cases h : ∀ i ∈ items, i.IsItem
    · exact .inl (.array h)
    · obtain ⟨n, bad, hm⟩ := FirstMisfit.of_exists (by simpa using h)
      exact .inr ⟨_, .item hm⟩
  | object fields =>
    by_cases h : ∀ f ∈ fields, Json.IsField f
    · exact .inl (.object h)
    · obtain ⟨n, ⟨key, item⟩, hm⟩ := FirstMisfit.of_exists
        (Classical.not_forall.1 h |>.imp fun _ hf => Classical.not_imp.1 hf)
      cases hk : keyIndex? key with
      | none => exact .inr ⟨_, .key hm hk⟩
      | some index => exact .inr ⟨_, .value hm hk⟩
  | _ => exact .inr ⟨_, .notATable (by simp) (by simp) (by simp)⟩

theorem ok_or_fault (j : Json) : (∃ t, ofJson j = .ok t) ∨ ∃ x, Fault j x :=
  (isTable_or_fault j).imp_left IsTable.exists_ok

/-- A value that is no table is refused with the fault that it has. -/
theorem ofJson_eq_error_iff {j : Json} : ofJson j = .error x ↔ Fault j x := by
  refine ⟨fun h => ?_, Fault.error⟩
  rcases ok_or_fault j with ⟨t, ht⟩ | ⟨y, hy⟩
  · rw [ht] at h
    cases h
  · rw [hy.error, Except.error.injEq] at h
    exact h ▸ hy

end Table

/-! ## Inputs -/

namespace Input

/-- The value is an array of labels, or an object that holds one, and a table or none. -/
inductive Shape : Json → Input → Prop
  | array {labels : List Text} : Shape (.ofLabels labels) ⟨labels, .empty⟩
  | object {fields : Json.Fields} {labels : List Text} :
      Json.Fields.get? "choices".toList fields = some (.ofLabels labels) →
      Json.Fields.get? "variables".toList fields = none → Shape (.object fields) ⟨labels, .empty⟩
  | withVariables {fields : Json.Fields} {labels : List Text} {v : Json} {table : Table} :
      Json.Fields.get? "choices".toList fields = some (.ofLabels labels) →
      Json.Fields.get? "variables".toList fields = some v → Table.ofJson v = .ok table →
      Shape (.object fields) ⟨labels, table⟩

/-- Why a value is no input. The labels of an object must be there in the first place, but what is
wrong with them is only told if nothing is wrong with the variables. -/
inductive Fault : Json → InputError → Prop
  | notAnInput {j : Json} : (∀ items, j ≠ .array items) → (∀ fields, j ≠ .object fields) →
      Fault j .notAnInput
  | array {items : List Json} {x : InputError} : LabelsFault (.array items) x →
      Fault (.array items) x
  | missing {fields : Json.Fields} : Json.Fields.get? "choices".toList fields = none →
      Fault (.object fields) .missingChoices
  | table {fields : Json.Fields} {choices v : Json} {x : InputError} :
      Json.Fields.get? "choices".toList fields = some choices →
      Json.Fields.get? "variables".toList fields = some v → Table.Fault v x →
      Fault (.object fields) x
  | labels {fields : Json.Fields} {choices : Json} {x : InputError} :
      Json.Fields.get? "choices".toList fields = some choices →
      (∀ v, Json.Fields.get? "variables".toList fields = some v → ∃ t, Table.ofJson v = .ok t) →
      LabelsFault choices x → Fault (.object fields) x

variable {j : Json} {input : Input}

theorem Shape.ok (h : Shape j input) : ofJson j = .ok input := by
  cases h with
  | @array labels =>
    have hl := labelsOfJson_ofLabels labels
    rw [Json.ofLabels] at hl ⊢
    simp only [ofJson, hl]
    rfl
  | @object fields labels hc hv =>
    simp only [ofJson, hc, hv, labelsOfJson_ofLabels]
    rfl
  | withVariables hc hv ht =>
    simp only [ofJson, hc, hv, ht, labelsOfJson_ofLabels]
    rfl

theorem Fault.error (h : Fault j x) : ofJson j = .error x := by
  cases h with
  | notAnInput harray hobject =>
    cases j with
    | array items => exact absurd rfl (harray items)
    | object fields => exact absurd rfl (hobject fields)
    | _ => rfl
  | array hl =>
    simp only [ofJson, hl.error]
    rfl
  | missing hc => simp only [ofJson, hc]
  | table hc hv ht =>
    simp only [ofJson, hc, hv, ht.error]
    rfl
  | @labels fields choices _ hc hv hl =>
    cases hget : Json.Fields.get? "variables".toList fields with
    | none =>
      simp only [ofJson, hc, hget, hl.error]
      rfl
    | some v =>
      obtain ⟨t, ht⟩ := hv v hget
      simp only [ofJson, hc, hget, ht, hl.error]
      rfl

theorem shape_or_fault (j : Json) : (∃ input, Shape j input) ∨ ∃ x, Fault j x := by
  cases j with
  | array items =>
    rcases labels_or_fault (.array items) with ⟨labels, hl⟩ | ⟨x, hx⟩
    · exact .inl ⟨⟨labels, .empty⟩, hl ▸ Shape.array⟩
    · exact .inr ⟨x, .array hx⟩
  | object fields =>
    cases hc : Json.Fields.get? "choices".toList fields with
    | none => exact .inr ⟨_, .missing hc⟩
    | some choices =>
      cases hv : Json.Fields.get? "variables".toList fields with
      | none =>
        rcases labels_or_fault choices with ⟨labels, rfl⟩ | ⟨x, hx⟩
        · exact .inl ⟨_, .object hc hv⟩
        · exact .inr ⟨x, .labels hc (fun v hget => by rw [hv] at hget; cases hget) hx⟩
      | some v =>
        rcases Table.ok_or_fault v with ⟨t, ht⟩ | ⟨x, hx⟩
        · rcases labels_or_fault choices with ⟨labels, rfl⟩ | ⟨x, hx⟩
          · exact .inl ⟨_, .withVariables hc hv ht⟩
          · refine .inr ⟨x, .labels hc (fun w hget => ⟨t, ?_⟩) hx⟩
            rwa [← Option.some.inj (hv.symm.trans hget)]
        · exact .inr ⟨x, .table hc hv hx⟩
  | _ => exact .inr ⟨_, .notAnInput (by simp) (by simp)⟩

theorem ofJson_eq_ok_iff : ofJson j = .ok input ↔ Shape j input := by
  refine ⟨fun h => ?_, Shape.ok⟩
  rcases shape_or_fault j with ⟨found, hs⟩ | ⟨y, hy⟩
  · rw [hs.ok, Except.ok.injEq] at h
    exact h ▸ hs
  · rw [hy.error] at h
    cases h

theorem ofJson_eq_error_iff : ofJson j = .error x ↔ Fault j x := by
  refine ⟨fun h => ?_, Fault.error⟩
  rcases shape_or_fault j with ⟨found, hs⟩ | ⟨y, hy⟩
  · rw [hs.ok] at h
    cases h
  · rw [hy.error, Except.error.injEq] at h
    exact h ▸ hy

end Input

end DialogGate
