import DialogGate.Label.Region
import DialogGate.Proofs.Text.FirstOccurrence
import Mathlib.Data.List.Pairwise

/-! # The regions of a label

`Label.Found` says what the region of a kind is, by the places of its markers: the first opening
marker, and the first closing marker from the end of that on. `Label.Kept` leaves out the region
that starts later, if it starts before the other one ends.

* `region?_eq_some_iff`: the search for the markers finds exactly that region.
* `mem_kept_iff`: the regions that count are exactly the ones kept.
* `within_kept`: they stand one behind the other inside the label.
-/

namespace DialogGate

/-- The markers of a pair are not empty, the first opening marker of a label stands at `i`, and the
first closing marker from its end on at `j`. -/
structure MarkerPair.Around (pair : MarkerPair) (label : Text) (i j : Nat) : Prop where
  opening_ne_nil : pair.opening ≠ []
  closing_ne_nil : pair.closing ≠ []
  opens : Text.FirstAt pair.opening label 0 i
  closes : Text.FirstAt pair.closing label (i + pair.opening.length) j

namespace Region

/-- Starts before another region; at one place, the disable region comes first. -/
def Precedes (a b : Region) : Prop :=
  a.start < b.start ∨ a.start = b.start ∧ a.kind = .disable ∧ b.kind = .hide

variable {a b : Region}

theorem Precedes.start_le (h : a.Precedes b) : a.start ≤ b.start := by
  rcases h with h | ⟨h, -⟩ <;> omega

theorem Precedes.asymm (h : a.Precedes b) : ¬b.Precedes a := by
  intro h'
  have hle := h.start_le
  have hle' := h'.start_le
  rcases h with h | ⟨-, -, hk⟩
  · omega
  · rcases h' with h' | ⟨-, hk', -⟩
    · omega
    · rw [hk] at hk'
      cases hk'

theorem Precedes.ne (h : a.Precedes b) : a ≠ b := by
  rintro rfl
  exact h.asymm h

end Region

namespace Label

variable (markers : Markers) (label : Text)

/-- The region that the label has for its kind: from the first opening marker to the first closing
marker from the end of that on, with what stands between the two. -/
def Found (r : Region) : Prop :=
  ∃ j, (markers.pair r.kind).Around label r.start j ∧
    r.condition = label.extract (r.start + (markers.pair r.kind).opening.length) j ∧
    r.stop = j + (markers.pair r.kind).closing.length

/-- A region that starts later than another one, and before that one ends. -/
def Dropped (r : Region) : Prop :=
  ∃ other, Found markers label other ∧ other.Precedes r ∧ r.start < other.stop

/-- A region that counts. -/
def Kept (r : Region) : Prop := Found markers label r ∧ ¬Dropped markers label r

/-! ## The search for the markers -/

section
variable {markers label} {kind : Kind} {pair : MarkerPair} {r : Region}

theorem region?_eq_some_iff : region? kind pair label = some r ↔
    ∃ i j, pair.Around label i j ∧
      r = ⟨kind, i, j + pair.closing.length, label.extract (i + pair.opening.length) j⟩ := by
  by_cases hne : pair.opening = [] ∨ pair.closing = []
  · -- an empty marker is never found
    have hnone : region? kind pair label = none := by
      rcases hne with h | h <;> simp [region?, h]
    rw [hnone]
    constructor
    · intro h
      cases h
    · rintro ⟨i, j, h, -⟩
      exact absurd hne (not_or.2 ⟨h.opening_ne_nil, h.closing_ne_nil⟩)
  obtain ⟨hopen, hclose⟩ := not_or.1 hne
  have hif : ¬(pair.opening.isEmpty || pair.closing.isEmpty) = true := by simp [hopen, hclose]
  have hsearch : region? kind pair label = some r ↔ ∃ i, Text.FirstAt pair.opening label 0 i ∧
      ∃ n, Text.FirstAt pair.closing (label.drop (i + pair.opening.length)) 0 n ∧
        r = ⟨kind, (label.take i).length,
          label.length -
            ((label.drop (i + pair.opening.length)).drop (n + pair.closing.length)).length,
          (label.drop (i + pair.opening.length)).take n⟩ := by
    simp only [region?, if_neg hif, bind, pure, Option.bind_eq_some_iff, Option.some.injEq,
      Prod.exists, Text.cutAt?_eq_some_iff]
    constructor
    · rintro ⟨_, _, ⟨i, hi, rfl, rfl⟩, _, _, ⟨n, hn, rfl, rfl⟩, rfl⟩
      exact ⟨i, hi, n, hn, rfl⟩
    · rintro ⟨i, hi, n, hn, rfl⟩
      exact ⟨_, _, ⟨i, hi, rfl, rfl⟩, _, _, ⟨n, hn, rfl, rfl⟩, rfl⟩
  rw [hsearch]
  constructor
  · rintro ⟨i, hi, n, hn, rfl⟩
    have hstart := hi.add_length_le
    have hstop := hn.add_length_le
    rw [List.length_drop] at hstop
    refine ⟨i, i + pair.opening.length + n, ⟨hopen, hclose, hi, ?_⟩, ?_⟩
    · exact (Text.firstAt_drop_iff (by omega)).1 hn
    · simp only [Region.mk.injEq, List.length_take, List.length_drop, List.extract_eq_take_drop]
      refine ⟨trivial, by omega, by omega, ?_⟩
      rw [Nat.add_sub_cancel_left]
  · rintro ⟨i, j, h, rfl⟩
    have hstart := h.opens.add_length_le
    have hstop := h.closes.add_length_le
    obtain ⟨n, rfl⟩ := Nat.exists_eq_add_of_le h.closes.le
    refine ⟨i, h.opens, n, (Text.firstAt_drop_iff (by omega)).2 h.closes, ?_⟩
    simp only [Region.mk.injEq, List.length_take, List.length_drop, List.extract_eq_take_drop]
    refine ⟨trivial, by omega, by omega, ?_⟩
    rw [Nat.add_sub_cancel_left]

/-- The region found for a kind is the one that its markers have in the label. -/
theorem found_iff :
    Found markers label r ↔ region? r.kind (markers.pair r.kind) label = some r := by
  obtain ⟨kind, start, stop, condition⟩ := r
  rw [region?_eq_some_iff]
  constructor
  · rintro ⟨j, h, hc, hs⟩
    exact ⟨start, j, h, by rw [← hc, ← hs]⟩
  · rintro ⟨i, j, h, he⟩
    simp only [Region.mk.injEq, true_and] at he
    obtain ⟨rfl, hs, hc⟩ := he
    exact ⟨j, h, hc, hs⟩

theorem kind_of_region? (h : region? kind pair label = some r) : r.kind = kind := by
  obtain ⟨i, j, -, rfl⟩ := region?_eq_some_iff.1 h
  rfl

/-- A label has at most one region of a kind. -/
theorem Found.unique {r' : Region} (h : Found markers label r) (h' : Found markers label r')
    (hk : r.kind = r'.kind) : r = r' := by
  rw [found_iff] at h h'
  rw [hk, h'] at h
  exact (Option.some.inj h).symm

theorem Found.bounds (h : Found markers label r) : r.start ≤ r.stop ∧ r.stop ≤ label.length :=
  region?_bounds (found_iff.1 h)

end

/-! ## The regions that count -/

section
variable {markers label} {r : Region}

theorem mem_regions_iff : r ∈ regions markers label ↔ Found markers label r := by
  have hkind (k : Kind) (x : Region) (h : region? k (markers.pair k) label = some x) :
      Found markers label x ∧ x.kind = k := by
    have hk := kind_of_region? h
    exact ⟨found_iff.2 (by rw [hk, h]), hk⟩
  have hboth : r ∈ regions markers label ↔ region? .disable markers.disable label = some r ∨
      region? .hide markers.hide label = some r := by
    unfold regions
    split
    · next d h hd hh =>
      rw [hd, hh]
      split <;> simp [eq_comm, or_comm]
    · simp
  rw [hboth]
  constructor
  · rintro (h | h)
    · exact (hkind .disable r h).1
    · exact (hkind .hide r h).1
  · intro h
    rw [found_iff] at h
    cases hk : r.kind with
    | disable => exact .inl (by rwa [hk] at h)
    | hide => exact .inr (by rwa [hk] at h)

/-- There are at most two regions, and the one in front precedes the other. -/
theorem regions_cases (markers : Markers) (label : Text) :
    regions markers label = [] ∨ (∃ a, regions markers label = [a]) ∨
      ∃ a b, regions markers label = [a, b] ∧ a.Precedes b := by
  unfold regions
  split
  · next d h hd hh =>
    have hdk := kind_of_region? hd
    have hhk := kind_of_region? hh
    refine .inr (.inr ?_)
    split
    · next hlt => exact ⟨h, d, rfl, .inl hlt⟩
    · next hle =>
      refine ⟨d, h, rfl, ?_⟩
      rcases Nat.lt_or_eq_of_le (Nat.not_lt.1 hle) with hlt | heq
      · exact .inl hlt
      · exact .inr ⟨heq, hdk, hhk⟩
  · next d h hnot =>
    cases hd : region? .disable markers.disable label with
    | none =>
      cases hh : region? .hide markers.hide label with
      | none => exact .inl rfl
      | some x => exact .inr (.inl ⟨x, rfl⟩)
    | some x =>
      cases hh : region? .hide markers.hide label with
      | none => exact .inr (.inl ⟨x, rfl⟩)
      | some y => exact absurd hh (hnot x y hd)

theorem kept_pair (a b : Region) :
    kept [a, b] = if b.start < a.stop then [a] else [a, b] := by
  by_cases h : b.start < a.stop <;> simp [kept, ignored?, h]

/-- Of the regions that count, the one in front ends before the other one starts. -/
theorem kept_cases (markers : Markers) (label : Text) :
    kept (regions markers label) = [] ∨ (∃ a, kept (regions markers label) = [a]) ∨
      ∃ a b, kept (regions markers label) = [a, b] ∧ a.kind ≠ b.kind ∧ a.stop ≤ b.start := by
  rcases regions_cases markers label with h | ⟨a, h⟩ | ⟨a, b, h, hab⟩
  · exact .inl (by rw [h]; rfl)
  · exact .inr (.inl ⟨a, by rw [h]; rfl⟩)
  · have ha : Found markers label a := mem_regions_iff.1 (by simp [h])
    have hb : Found markers label b := mem_regions_iff.1 (by simp [h])
    rw [h, kept_pair]
    split
    · exact .inr (.inl ⟨a, rfl⟩)
    · next hle =>
      refine .inr (.inr ⟨a, b, rfl, fun hk => ?_, Nat.not_lt.1 hle⟩)
      exact hab.ne (ha.unique hb hk)

/-- The regions that count are those that do not start inside an earlier one. -/
theorem mem_kept_iff : r ∈ kept (regions markers label) ↔ Kept markers label r := by
  have hdropped : Dropped markers label r ↔
      ∃ other ∈ regions markers label, other.Precedes r ∧ r.start < other.stop := by
    simp only [Dropped, mem_regions_iff]
  rw [Kept, hdropped, ← mem_regions_iff]
  rcases regions_cases markers label with h | ⟨a, h⟩ | ⟨a, b, h, hab⟩
  · simp [h, kept, ignored?]
  · rw [h]
    simp only [kept, ignored?, List.mem_singleton, exists_eq_left]
    constructor
    · rintro rfl
      exact ⟨rfl, fun hr => hr.1.ne rfl⟩
    · exact And.left
  · have hfirst : ¬∃ other ∈ [a, b], other.Precedes a ∧ a.start < other.stop := by
      simp only [List.mem_cons, List.not_mem_nil, or_false, exists_eq_or_imp, exists_eq_left]
      rintro (⟨haa, -⟩ | ⟨hba, -⟩)
      · exact haa.ne rfl
      · exact hab.asymm hba
    have hsecond : (∃ other ∈ [a, b], other.Precedes b ∧ b.start < other.stop) ↔
        b.start < a.stop := by
      simp only [List.mem_cons, List.not_mem_nil, or_false, exists_eq_or_imp, exists_eq_left]
      constructor
      · rintro (⟨-, hlt⟩ | ⟨hbb, -⟩)
        · exact hlt
        · exact absurd rfl hbb.ne
      · intro hlt
        exact .inl ⟨hab, hlt⟩
    have hmem (h : r ∈ [a, b]) : r = a ∨ r = b := by simpa using h
    rw [h, kept_pair]
    split
    · next hlt =>
      rw [List.mem_singleton]
      constructor
      · rintro rfl
        exact ⟨.head _, hfirst⟩
      · rintro ⟨hr, hn⟩
        rcases hmem hr with rfl | rfl
        · rfl
        · exact absurd (hsecond.2 hlt) hn
    · next hlt =>
      constructor
      · intro hr
        refine ⟨hr, ?_⟩
        rcases hmem hr with rfl | rfl
        · exact hfirst
        · exact mt hsecond.1 hlt
      · exact And.left

/-- The condition of a kind is what stands in the region of that kind that counts. -/
theorem conditionOf?_kept_eq_some_iff {kind : Kind} {raw : Text} :
    conditionOf? kind (kept (regions markers label)) = some raw ↔
      ∃ r, Kept markers label r ∧ r.kind = kind ∧ r.condition = raw := by
  unfold conditionOf?
  rw [Option.map_eq_some_iff]
  constructor
  · rintro ⟨r, hr, hc⟩
    have hm := List.mem_of_find?_eq_some hr
    have hk := List.find?_some hr
    exact ⟨r, mem_kept_iff.1 hm, by simpa using hk, hc⟩
  · rintro ⟨r, hr, hk, hc⟩
    cases hf : (kept (regions markers label)).find? (·.kind = kind) with
    | none =>
      rw [List.find?_eq_none] at hf
      exact absurd (by simpa using hk) (hf r (mem_kept_iff.2 hr))
    | some r' =>
      have hm := mem_kept_iff.1 (List.mem_of_find?_eq_some hf)
      have hk' : r'.kind = kind := by simpa using List.find?_some hf
      refine ⟨r', rfl, ?_⟩
      rw [← hc, hr.1.unique hm.1 (hk.trans hk'.symm)]

end

/-! ## Where they stand -/

/-- Regions that stand one behind the other from an offset on, and end before `length`. -/
def Within (length : Nat) : Nat → List Region → Prop
  | start, [] => start ≤ length
  | start, r :: later => start ≤ r.start ∧ r.start ≤ r.stop ∧ Within length r.stop later

theorem within_kept : Within label.length 0 (kept (regions markers label)) := by
  have hbounds (r : Region) (h : r ∈ kept (regions markers label)) :=
    (mem_kept_iff.1 h).1.bounds
  rcases kept_cases markers label with h | ⟨a, h⟩ | ⟨a, b, h, -, hab⟩
  · rw [h]
    exact Nat.zero_le _
  · rw [h]
    obtain ⟨ha, hl⟩ := hbounds a (by simp [h])
    exact ⟨Nat.zero_le _, ha, hl⟩
  · rw [h]
    obtain ⟨ha, -⟩ := hbounds a (by simp [h])
    obtain ⟨hb, hl⟩ := hbounds b (by simp [h])
    exact ⟨Nat.zero_le _, ha, hab, hb, hl⟩

end Label

end DialogGate
