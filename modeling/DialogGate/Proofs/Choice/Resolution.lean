import DialogGate.Choice
import Mathlib.Data.List.Sort

/-! # What a list of labels is resolved to

Checking a condition, and so resolving a label, only puts diagnostics behind those kept so far and
does not look at them (`check_eq`, `resolve_eq`). By induction over the labels, what is resolved is
made up of what each label contributes on its own (`onto_choices`, `onto_diagnostics`).

From this follows what is in the two lists (`mem_choices_iff`, `mem_diagnostics_iff`) and in which
order (`choices_ascending`, `diagnostics_ascending`). Both together leave no freedom, since an
ascending list is determined by its members; a label that is replaced can therefore only change
what stands at its own place.
-/

namespace DialogGate

variable (markers : Markers) (store : Store)

/-! ## One condition -/

/-- The label has a condition of the kind, and the condition is true. -/
def Label.Holds (label : Text) (kind : Kind) : Prop :=
  ∃ raw, (extract markers label).condition? kind = some raw ∧ Condition.check store raw = .ok true

namespace Extracted

variable (e : Extracted) (index : Nat) (kind : Kind)

/-- The failure of the condition of a kind, if there is such a condition and it fails. -/
def failure? : Option Diagnostic :=
  (e.condition? kind).bind fun raw =>
    match Condition.check store raw with
    | .ok _ => none
    | .error error => some ⟨index, kind, raw, error⟩

theorem failure?_eq_some_iff {d : Diagnostic} :
    e.failure? store index kind = some d ↔ d.index = index ∧ d.kind = kind ∧
      e.condition? kind = some d.condition ∧ Condition.check store d.condition = .error d.error := by
  unfold failure?
  rw [Option.bind_eq_some_iff]
  constructor
  · rintro ⟨raw, hr, h⟩
    cases hc : Condition.check store raw with
    | ok b => rw [hc] at h; cases h
    | error error =>
      rw [hc, Option.some.injEq] at h
      subst h
      exact ⟨rfl, rfl, hr, hc⟩
  · rintro ⟨rfl, rfl, hr, hc⟩
    exact ⟨d.condition, hr, by rw [hc]⟩

/-- What is kept so far has no part in a check, and stays in front. -/
theorem check_eq (kept : List Diagnostic) :
    e.check store index kind kept =
      ((e.check store index kind []).1, kept ++ (e.failure? store index kind).toList) := by
  unfold check failure?
  cases e.condition? kind with
  | none => simp
  | some raw => cases hc : Condition.check store raw <;> simp [hc]

theorem check_fst_iff : (e.check store index kind []).1 = true ↔
    ∃ raw, e.condition? kind = some raw ∧ Condition.check store raw = .ok true := by
  unfold check
  cases e.condition? kind with
  | none => simp
  | some raw => cases hc : Condition.check store raw <;> simp [hc]

end Extracted

/-! ## One label -/

namespace Diagnostic

/-- The diagnostics of one label stand together, the one of the disable condition first. -/
def Before (a b : Diagnostic) : Prop :=
  a.index < b.index ∨ a.index = b.index ∧ a.kind = .disable ∧ b.kind = .hide

instance : Std.Irrefl Before where
  irrefl a h := by
    rcases h with h | ⟨-, hd, hh⟩
    · exact Nat.lt_irrefl _ h
    · rw [hd] at hh
      cases hh

instance : Std.Antisymm Before where
  antisymm a b h h' := by
    rcases h with h | ⟨he, hd, hh⟩ <;> rcases h' with h' | ⟨he', hd', hh'⟩
    · exact absurd h' (Nat.lt_asymm h)
    · omega
    · omega
    · rw [hd] at hh'
      cases hh'

/-- The conditions of one label that fail. -/
def ofLabel (index : Nat) (label : Text) : List Diagnostic :=
  [Kind.disable, Kind.hide].filterMap ((Label.extract markers label).failure? store index)

theorem mem_ofLabel_iff {index : Nat} {label : Text} {d : Diagnostic} :
    d ∈ ofLabel markers store index label ↔ d.index = index ∧
      (Label.extract markers label).condition? d.kind = some d.condition ∧
      Condition.check store d.condition = .error d.error := by
  have hk : ∀ k : Kind, k ∈ [Kind.disable, Kind.hide] := by
    intro k
    cases k <;> decide
  rw [ofLabel, List.mem_filterMap]
  constructor
  · rintro ⟨kind, -, h⟩
    obtain ⟨hi, rfl, h⟩ := (Extracted.failure?_eq_some_iff ..).1 h
    exact ⟨hi, h⟩
  · rintro ⟨hi, h⟩
    exact ⟨d.kind, hk d.kind, (Extracted.failure?_eq_some_iff ..).2 ⟨hi, rfl, h⟩⟩

theorem ofLabel_ascending (index : Nat) (label : Text) :
    (ofLabel markers store index label).Pairwise Before := by
  rw [ofLabel, List.pairwise_filterMap]
  refine List.pairwise_pair.2 fun a ha b hb => ?_
  obtain ⟨hia, hka, -⟩ := (Extracted.failure?_eq_some_iff ..).1 ha
  obtain ⟨hib, hkb, -⟩ := (Extracted.failure?_eq_some_iff ..).1 hb
  exact .inr ⟨hia.trans hib.symm, hka, hkb⟩

end Diagnostic

namespace Choice

/-- Resolving a label does not depend on the diagnostics kept so far, and only adds to them. -/
theorem resolve_eq (index : Nat) (label : Text) (kept : List Diagnostic) :
    resolve markers store index label kept =
      ((resolve markers store index label []).1,
        kept ++ Diagnostic.ofLabel markers store index label) := by
  have hf (e : Extracted) : [Kind.disable, Kind.hide].filterMap (e.failure? store index) =
      (e.failure? store index .disable).toList ++ (e.failure? store index .hide).toList := by
    rw [List.filterMap_cons, List.filterMap_cons, List.filterMap_nil]
    cases e.failure? store index .disable <;> cases e.failure? store index .hide <;> rfl
  simp only [resolve, Extracted.check_eq store _ _ _ kept,
    Extracted.check_eq store _ _ _ (kept ++ _), Extracted.check_eq store _ _ .hide (Prod.snd _)]
  rw [Diagnostic.ofLabel, hf, List.append_assoc]

/-- The choice at the place of a label, if it is shown. -/
def shown? (index : Nat) (label : Text) : Option Choice :=
  let choice := (resolve markers store index label []).1
  if choice.hidden then none else some choice

theorem resolve_fst (index : Nat) (label : Text) (kept : List Diagnostic) :
    (resolve markers store index label kept).1 =
      ⟨index, (Label.extract markers label).text,
        !((Label.extract markers label).check store index .disable []).1,
        ((Label.extract markers label).check store index .hide []).1⟩ := by
  simp only [resolve, Extracted.check_eq store _ _ .disable kept,
    Extracted.check_eq store _ _ .hide (kept ++ _)]

theorem shown?_eq_some_iff {index : Nat} {label : Text} {c : Choice} :
    shown? markers store index label = some c ↔
      ¬Label.Holds markers store label .hide ∧ c.index = index ∧
      c.text = (Label.extract markers label).text ∧ c.hidden = false ∧
      (c.enabled = false ↔ Label.Holds markers store label .disable) := by
  obtain ⟨i, text, enabled, hidden⟩ := c
  have hd : _ ↔ Label.Holds markers store label .disable :=
    Extracted.check_fst_iff store (Label.extract markers label) index .disable
  have hh : _ ↔ Label.Holds markers store label .hide :=
    Extracted.check_fst_iff store (Label.extract markers label) index .hide
  rw [shown?, resolve_fst, ← hd, ← hh]
  cases ((Label.extract markers label).check store index .hide []).1 with
  | true => simp
  | false =>
    cases ((Label.extract markers label).check store index .disable []).1 <;>
      cases enabled <;> simp [eq_comm]

end Choice

/-! ## A list of labels -/

namespace Resolution

theorem onto_choices (r : Resolution) (index : Nat) (labels : List Text) :
    (onto markers store r index labels).choices =
      r.choices ++ (labels.zipIdx index).filterMap fun x =>
        Choice.shown? markers store x.2 x.1 := by
  induction labels generalizing r index with
  | nil => simp [onto]
  | cons label labels ih =>
    have hadd : (r.add markers store index label).choices =
        r.choices ++ (Choice.shown? markers store index label).toList := by
      rw [add, Choice.resolve_eq, Choice.shown?]
      cases h : (Choice.resolve markers store index label []).1.hidden <;> simp [h]
    rw [onto, ih, hadd, List.zipIdx_cons, List.filterMap_cons, List.append_assoc]
    cases Choice.shown? markers store index label <;> simp

theorem onto_diagnostics (r : Resolution) (index : Nat) (labels : List Text) :
    (onto markers store r index labels).diagnostics =
      r.diagnostics ++ (labels.zipIdx index).flatMap fun x =>
        Diagnostic.ofLabel markers store x.2 x.1 := by
  induction labels generalizing r index with
  | nil => simp [onto]
  | cons label labels ih =>
    have hadd : (r.add markers store index label).diagnostics =
        r.diagnostics ++ Diagnostic.ofLabel markers store index label := by
      rw [add, Choice.resolve_eq]
    rw [onto, ih, hadd, List.zipIdx_cons, List.flatMap_cons, List.append_assoc]

theorem pairwise_zipIdx {α : Type} (l : List α) (n : Nat) :
    (l.zipIdx n).Pairwise (·.2 < ·.2) := by
  rw [← List.pairwise_map (f := Prod.snd), List.zipIdx_map_snd]
  exact List.pairwise_lt_range'

variable {labels : List Text}

/-- A choice is there for each label whose hide condition does not hold, and for no other. -/
theorem mem_choices_iff {c : Choice} :
    c ∈ (of markers store labels).choices ↔ ∃ label, labels[c.index]? = some label ∧
      ¬Label.Holds markers store label .hide ∧
      c.text = (Label.extract markers label).text ∧ c.hidden = false ∧
      (c.enabled = false ↔ Label.Holds markers store label .disable) := by
  rw [of, onto_choices, List.nil_append, List.mem_filterMap]
  constructor
  · rintro ⟨⟨label, i⟩, hm, hs⟩
    obtain ⟨hh, rfl, h⟩ := (Choice.shown?_eq_some_iff ..).1 hs
    exact ⟨label, List.mem_zipIdx_iff_getElem?.1 hm, hh, h⟩
  · rintro ⟨label, hl, hh, h⟩
    exact ⟨(label, c.index), List.mem_zipIdx_iff_getElem?.2 hl,
      (Choice.shown?_eq_some_iff ..).2 ⟨hh, rfl, h⟩⟩

theorem choices_ascending (labels : List Text) :
    (of markers store labels).choices.Pairwise (·.index < ·.index) := by
  rw [of, onto_choices, List.nil_append, List.pairwise_filterMap]
  refine (pairwise_zipIdx labels 0).imp fun {a b} hab c hc d hd => ?_
  obtain ⟨-, hci, -⟩ := (Choice.shown?_eq_some_iff ..).1 hc
  obtain ⟨-, hdi, -⟩ := (Choice.shown?_eq_some_iff ..).1 hd
  rwa [hci, hdi]

/-- A diagnostic is there for each condition that fails, and for no other. -/
theorem mem_diagnostics_iff {d : Diagnostic} :
    d ∈ (of markers store labels).diagnostics ↔ ∃ label, labels[d.index]? = some label ∧
      (Label.extract markers label).condition? d.kind = some d.condition ∧
      Condition.check store d.condition = .error d.error := by
  rw [of, onto_diagnostics, List.nil_append, List.mem_flatMap]
  constructor
  · rintro ⟨⟨label, i⟩, hm, hd⟩
    obtain ⟨rfl, h⟩ := (Diagnostic.mem_ofLabel_iff ..).1 hd
    exact ⟨label, List.mem_zipIdx_iff_getElem?.1 hm, h⟩
  · rintro ⟨label, hl, h⟩
    exact ⟨(label, d.index), List.mem_zipIdx_iff_getElem?.2 hl,
      (Diagnostic.mem_ofLabel_iff ..).2 ⟨rfl, h⟩⟩

theorem diagnostics_ascending (labels : List Text) :
    (of markers store labels).diagnostics.Pairwise Diagnostic.Before := by
  rw [of, onto_diagnostics, List.nil_append, List.pairwise_flatMap]
  refine ⟨fun a _ => Diagnostic.ofLabel_ascending markers store a.2 a.1, ?_⟩
  refine (pairwise_zipIdx labels 0).imp fun {a b} hab c hc d hd => .inl ?_
  obtain ⟨hci, -⟩ := (Diagnostic.mem_ofLabel_iff ..).1 hc
  obtain ⟨hdi, -⟩ := (Diagnostic.mem_ofLabel_iff ..).1 hd
  rwa [hci, hdi]

/-! ### Replacing a label

The other labels keep their places, so the members that are left do not change.
-/

theorem getElem?_set_eq {i j : Nat} (h : j ≠ i) (labels : List Text) (label : Text) :
    (labels.set i label)[j]? = labels[j]? :=
  List.getElem?_set_ne (Ne.symm h)

theorem choices_set (i : Nat) (label : Text) (labels : List Text) :
    (of markers store (labels.set i label)).choices.filter (·.index ≠ i) =
      (of markers store labels).choices.filter (·.index ≠ i) := by
  refine ((choices_ascending ..).filter _).eq_of_mem_iff ((choices_ascending ..).filter _) fun c => ?_
  rw [List.mem_filter, List.mem_filter, mem_choices_iff, mem_choices_iff]
  refine and_congr_left fun hc => ?_
  rw [getElem?_set_eq (by simpa using hc)]

theorem diagnostics_set (i : Nat) (label : Text) (labels : List Text) :
    (of markers store (labels.set i label)).diagnostics.filter (·.index ≠ i) =
      (of markers store labels).diagnostics.filter (·.index ≠ i) := by
  refine ((diagnostics_ascending ..).filter _).eq_of_mem_iff
    ((diagnostics_ascending ..).filter _) fun d => ?_
  rw [List.mem_filter, List.mem_filter, mem_diagnostics_iff, mem_diagnostics_iff]
  refine and_congr_left fun hd => ?_
  rw [getElem?_set_eq (by simpa using hd)]

/-! ### Exactness -/

/-- What a list of labels is resolved to: the choices that are not hidden, in order; the conditions
that fail, in order; nothing of a label shows at the place of another one; and nothing that is kept
from before is touched or looked at. -/
theorem of_exact (labels : List Text) :
    ((of markers store labels).choices.Pairwise (·.index < ·.index) ∧
      ∀ c, c ∈ (of markers store labels).choices ↔ ∃ label, labels[c.index]? = some label ∧
        ¬Label.Holds markers store label .hide ∧
        c.text = (Label.extract markers label).text ∧ c.hidden = false ∧
        (c.enabled = false ↔ Label.Holds markers store label .disable)) ∧
    ((of markers store labels).diagnostics.Pairwise Diagnostic.Before ∧
      ∀ d, d ∈ (of markers store labels).diagnostics ↔ ∃ label, labels[d.index]? = some label ∧
        (Label.extract markers label).condition? d.kind = some d.condition ∧
        Condition.check store d.condition = .error d.error) ∧
    (∀ i label,
      (of markers store (labels.set i label)).choices.filter (·.index ≠ i) =
        (of markers store labels).choices.filter (·.index ≠ i) ∧
      (of markers store (labels.set i label)).diagnostics.filter (·.index ≠ i) =
        (of markers store labels).diagnostics.filter (·.index ≠ i)) ∧
    ∀ index label kept, Choice.resolve markers store index label kept =
      ((Choice.resolve markers store index label []).1,
        kept ++ (Choice.resolve markers store index label []).2) := by
  refine ⟨⟨choices_ascending markers store labels, fun c => mem_choices_iff markers store⟩,
    ⟨diagnostics_ascending markers store labels, fun d => mem_diagnostics_iff markers store⟩,
    fun i label => ⟨choices_set markers store i label labels,
      diagnostics_set markers store i label labels⟩, fun index label kept => ?_⟩
  have hkept := Choice.resolve_eq markers store index label kept
  have hnone := congrArg Prod.snd (Choice.resolve_eq markers store index label [])
  rw [List.nil_append] at hnone
  rw [hkept, hnone]

end Resolution

end DialogGate
