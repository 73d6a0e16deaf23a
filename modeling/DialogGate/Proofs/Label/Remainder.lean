import DialogGate.Proofs.Label.Regions
import DialogGate.Proofs.Text.Slice

/-! # What is left of a label

Taking the regions that count out of a label leaves the characters outside of them, in order
(`text_extract_eq_outside`). In between stands `remaining`, which goes through the label from front
to back: it is what the regions taken out one by one leave (`foldr_without`), and what a look at
each offset leaves (`remaining_eq_outside`).
-/

namespace DialogGate

namespace Text

/-- The characters of a text that starts at `start`, at the offsets that are not covered. -/
def outside (covered : Nat → Prop) [DecidablePred covered] (start : Nat) (text : Text) : Text :=
  ((text.zipIdx start).filter fun x => ¬covered x.2).map Prod.fst

section
variable {covered : Nat → Prop} [DecidablePred covered] {start : Nat} {text : Text}

theorem outside_append (a b : Text) :
    outside covered start (a ++ b) =
      outside covered start a ++ outside covered (start + a.length) b := by
  simp only [outside, List.zipIdx_append, List.filter_append, List.map_append]

theorem outside_eq_self (h : ∀ i, start ≤ i → i < start + text.length → ¬covered i) :
    outside covered start text = text := by
  have hall : (text.zipIdx start).filter (fun x => ¬covered x.2) = text.zipIdx start := by
    refine List.filter_eq_self.2 fun x hx => ?_
    have hx := List.mem_zipIdx hx
    simpa using h x.2 hx.1 hx.2.1
  rw [outside, hall, List.zipIdx_map_fst]

theorem outside_eq_nil (h : ∀ i, start ≤ i → i < start + text.length → covered i) :
    outside covered start text = [] := by
  have hnone : (text.zipIdx start).filter (fun x => ¬covered x.2) = [] := by
    refine List.filter_eq_nil_iff.2 fun x hx => ?_
    have hx := List.mem_zipIdx hx
    simpa using h x.2 hx.1 hx.2.1
  rw [outside, hnone, List.map_nil]

end

end Text

namespace Label

/-- The offsets at which a region that counts stands, its markers included. -/
def Covered (markers : Markers) (label : Text) (i : Nat) : Prop :=
  ∃ r, Kept markers label r ∧ r.start ≤ i ∧ i < r.stop

instance (markers : Markers) (label : Text) : DecidablePred (Covered markers label) := fun i =>
  decidable_of_iff (∃ r ∈ kept (regions markers label), r.start ≤ i ∧ i < r.stop) <| by
    simp only [Covered, mem_kept_iff]

/-! ## Characters -/

/-- What is left of a label from `start` on, without regions that stand one behind the other. -/
def remaining (label : Text) (start : Nat) : List Region → Text
  | [] => label.drop start
  | r :: later => label.extract start r.start ++ remaining label r.stop later

section
variable {label : Text} {start : Nat} {found : List Region}

theorem Within.le_length {length : Nat} (h : Within length start found) : start ≤ length := by
  induction found generalizing start with
  | nil => exact h
  | cons r later ih =>
    have := ih h.2.2
    exact Nat.le_trans h.1 (Nat.le_trans h.2.1 this)

theorem Within.le_start {length : Nat} (h : Within length start found) :
    ∀ r ∈ found, start ≤ r.start := by
  induction found generalizing start with
  | nil => simp
  | cons r later ih =>
    intro r' hr'
    rcases List.mem_cons.1 hr' with rfl | hr'
    · exact h.1
    · exact Nat.le_trans h.1 (Nat.le_trans h.2.1 (ih h.2.2 r' hr'))

/-- Taking regions out, the last one first, is the same as leaving them out on the way. -/
theorem foldr_without (h : Within label.length start found) :
    found.foldr without label = label.take start ++ remaining label start found := by
  induction found generalizing start with
  | nil => rw [List.foldr_nil, remaining, List.take_append_drop]
  | cons r later ih =>
    obtain ⟨hstart, hstop, hlater⟩ := h
    have hlen : (label.take r.stop).length = r.stop := by
      rw [List.length_take, Nat.min_eq_left hlater.le_length]
    have hbefore : (label.take r.stop ++ remaining label r.stop later).take r.start =
        label.take r.start := by
      rw [List.take_append_of_le_length (by omega), List.take_take, Nat.min_eq_left hstop]
    have hbehind : (label.take r.stop ++ remaining label r.stop later).drop r.stop =
        remaining label r.stop later := List.drop_left' hlen
    rw [List.foldr_cons, ih hlater, without, hbefore, hbehind, remaining, ← List.append_assoc,
      Text.take_append_extract label hstart]

/-- What is left are the characters outside the regions. -/
theorem remaining_eq_outside (h : Within label.length start found) {covered : Nat → Prop}
    [DecidablePred covered]
    (hc : ∀ i, start ≤ i → (covered i ↔ ∃ r ∈ found, r.start ≤ i ∧ i < r.stop)) :
    remaining label start found = Text.outside covered start (label.drop start) := by
  induction found generalizing start with
  | nil =>
    have hnone : ∀ i, start ≤ i → i < start + (label.drop start).length → ¬covered i := by
      intro i hi _
      simp [hc i hi]
    rw [remaining, Text.outside_eq_self hnone]
  | cons r later ih =>
    obtain ⟨hstart, hstop, hlater⟩ := h
    have hlength := hlater.le_length
    have hbefore : (label.extract start r.start).length = r.start - start :=
      Text.length_extract (by omega)
    have hinside : (label.extract r.start r.stop).length = r.stop - r.start :=
      Text.length_extract hlength
    have hplain : ∀ i, start ≤ i → i < start + (label.extract start r.start).length →
        ¬covered i := by
      intro i hi hlt
      rw [hc i hi]
      rintro ⟨r', hr', hle, -⟩
      rcases List.mem_cons.1 hr' with rfl | hr'
      · omega
      · have := hlater.le_start r' hr'
        omega
    have hcovered : ∀ i, r.start ≤ i → i < r.start + (label.extract r.start r.stop).length →
        covered i := by
      intro i hi hlt
      exact (hc i (by omega)).2 ⟨r, .head _, hi, by omega⟩
    have hrest : ∀ i, r.stop ≤ i →
        (covered i ↔ ∃ r ∈ later, r.start ≤ i ∧ i < r.stop) := by
      intro i hi
      have hr : ¬(r.start ≤ i ∧ i < r.stop) := fun h => by omega
      rw [hc i (by omega)]
      simp only [List.mem_cons, exists_eq_or_imp, hr, false_or]
    rw [← Text.extract_append_drop label hstart, ← Text.extract_append_drop label hstop,
      Text.outside_append, Text.outside_append, Text.outside_eq_self hplain, hbefore, hinside,
      Nat.add_sub_cancel' hstart, Text.outside_eq_nil hcovered, Nat.add_sub_cancel' hstop,
      List.nil_append, remaining, ih hlater hrest]

end

section
variable (markers : Markers) (label : Text)

theorem text_extract_eq_remaining : (extract markers label).text =
    remaining label 0 (kept (regions markers label)) :=
  foldr_without (within_kept markers label)

theorem text_extract_eq_outside : (extract markers label).text =
    Text.outside (Covered markers label) 0 label := by
  rw [text_extract_eq_remaining]
  refine remaining_eq_outside (within_kept markers label) fun i _ => ?_
  simp only [Covered, mem_kept_iff]

theorem condition?_extract (kind : Kind) : (extract markers label).condition? kind =
    conditionOf? kind (kept (regions markers label)) := by
  cases kind <;> rfl

end

end Label

end DialogGate
