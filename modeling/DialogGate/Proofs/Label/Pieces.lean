import DialogGate.Proofs.Label.Extraction

/-! # Labels that are put together

Texts in which no marker stands, and conditions between their markers, make up a label. If the
markers can be told apart (`Markers.Distinct`), looking for one of them passes over the texts
(`cutAt?_text`) and over the other markers (`cutAt?_other`), so a condition is found again where it
was put (`region?_guarded`).

A label that begins with a condition is taken apart one condition at a time: the first one is taken
out, and what stands behind it is a label of its own, whose region only moves
(`extract_guarded_behind`). So extraction undoes what put the label together (`extract_assembled`).
-/

namespace DialogGate

/-- The two markers of a pair. -/
inductive Side where
  | opening
  | closing
  deriving DecidableEq, Repr

namespace Markers

/-- One of the four markers. -/
def marker (m : Markers) (kind : Kind) : Side → Text
  | .opening => (m.pair kind).opening
  | .closing => (m.pair kind).closing

/-- Every marker begins with `k` and has it nowhere else, and no marker begins with another one. -/
structure Distinct (m : Markers) (k : Char) : Prop where
  led : ∀ kind side, Text.Led k (m.marker kind side)
  apart : ∀ kind side kind' side', (kind, side) ≠ (kind', side') →
    ¬m.marker kind side <+: m.marker kind' side'

/-- None of the markers stands in a text. -/
def Absent (m : Markers) (text : Text) : Prop := ∀ kind side, ¬m.marker kind side <:+: text

theorem short_distinct : Distinct short '<' where
  led kind side := by
    cases kind <;> cases side <;> exact ⟨_, rfl, by decide⟩
  apart kind side kind' side' := by
    cases kind <;> cases side <;> cases kind' <;> cases side' <;> decide

theorem long_distinct : Distinct long '<' where
  led kind side := by
    cases kind <;> cases side <;> exact ⟨_, rfl, by decide⟩
  apart kind side kind' side' := by
    cases kind <;> cases side <;> cases kind' <;> cases side' <;> decide

instance (m : Markers) (text : Text) : Decidable (m.Absent text) :=
  decidable_of_iff (∀ kind ∈ [Kind.disable, .hide], ∀ side ∈ [Side.opening, .closing],
      Text.cutAt? (m.marker kind side) text = none) <| by
    simp only [Text.cutAt?_eq_none_iff, Absent]
    constructor
    · intro h kind side
      exact h kind (by cases kind <;> simp) side (by cases side <;> simp)
    · intro h kind _ side _
      exact h kind side

section
variable {m : Markers} {k : Char} {text tail : Text} {kind kind' : Kind} {side side' : Side}

/-- No marker begins in a text and ends in the marker behind it. -/
theorem Distinct.cutAt?_text (h : m.Distinct k) (ht : m.Absent text) :
    Text.cutAt? (m.marker kind side) (text ++ (m.marker kind' side' ++ tail)) =
      (Text.cutAt? (m.marker kind side) (m.marker kind' side' ++ tail)).map
        (Text.prepend text) := by
  refine Text.cutAt?_piece (h.led kind side) (ht kind side) fun c hc => ?_
  obtain ⟨rest, hrest, -⟩ := h.led kind' side'
  rw [hrest] at hc
  exact (Option.some.inj hc).symm

theorem Distinct.cutAt?_other (h : m.Distinct k) (hne : (kind, side) ≠ (kind', side')) :
    Text.cutAt? (m.marker kind side) (m.marker kind' side' ++ tail) =
      (Text.cutAt? (m.marker kind side) tail).map (Text.prepend (m.marker kind' side')) :=
  Text.cutAt?_marker (h.led kind side) (h.led kind' side') (h.apart _ _ _ _ hne)
    (h.apart _ _ _ _ hne.symm)

theorem Distinct.absent_nil (h : m.Distinct k) : m.Absent [] := by
  intro kind side hi
  exact (h.led kind side).ne_nil (List.infix_nil.1 hi)

theorem Absent.cutAt?_eq_none (h : m.Absent text) :
    Text.cutAt? (m.marker kind side) text = none :=
  Text.cutAt?_eq_none_iff.2 (h kind side)

end

end Markers

/-- The same region in a label with `n` more characters in front. -/
def Region.behind (n : Nat) (r : Region) : Region :=
  { r with start := n + r.start, stop := n + r.stop }

namespace Label

variable {m : Markers} {k : Char} {kind kind' : Kind} {label before condition after : Text}

/-- A condition between its markers, and the text around them. -/
def guarded (m : Markers) (kind : Kind) (before condition after : Text) : Text :=
  before ++ (m.marker kind .opening ++ (condition ++ (m.marker kind .closing ++ after)))

/-- A text with a condition behind it. -/
def front (m : Markers) (kind : Kind) (before condition : Text) : Text :=
  before ++ (m.marker kind .opening ++ (condition ++ m.marker kind .closing))

theorem guarded_eq (m : Markers) (kind : Kind) (before condition after : Text) :
    guarded m kind before condition after = front m kind before condition ++ after := by
  simp [guarded, front]

/-- The condition behind the first opening marker is found. -/
theorem region?_of_cutAt? (h : m.Distinct k) (hc : m.Absent condition)
    (hl : Text.cutAt? (m.marker kind .opening) label =
      some (before, condition ++ (m.marker kind .closing ++ after))) :
    region? kind (m.pair kind) label =
      some ⟨kind, before.length, label.length - after.length, condition⟩ := by
  have hopen : (m.pair kind).opening ≠ [] := (h.led kind .opening).ne_nil
  have hclose : (m.pair kind).closing ≠ [] := (h.led kind .closing).ne_nil
  have hbehind : Text.cutAt? (m.marker kind .closing)
      (condition ++ (m.marker kind .closing ++ after)) = some (condition, after) := by
    rw [h.cutAt?_text hc, Text.cutAt?_self, Option.map_some, Text.prepend, List.append_nil]
  have hne : ¬((m.pair kind).opening.isEmpty || (m.pair kind).closing.isEmpty) = true := by
    simp [hopen, hclose]
  simp only [Markers.marker] at hl hbehind
  simp only [region?, if_neg hne, hl, hbehind, bind, Option.bind_some, pure]

theorem region?_eq_none (h : Text.cutAt? (m.marker kind .opening) label = none) :
    region? kind (m.pair kind) label = none := by
  unfold region?
  split
  · rfl
  · simp only [Markers.marker] at h
    rw [h]
    rfl

theorem region?_guarded (h : m.Distinct k) (hb : m.Absent before) (hc : m.Absent condition) :
    region? kind (m.pair kind) (guarded m kind before condition after) =
      some ⟨kind, before.length, (guarded m kind before condition after).length - after.length,
        condition⟩ := by
  refine region?_of_cutAt? h hc ?_
  rw [guarded, h.cutAt?_text hb, Text.cutAt?_self, Option.map_some, Text.prepend, List.append_nil]

/-- Text that the search for the opening marker passes over only moves the region. -/
theorem region?_behind {pair : MarkerPair} {passed : Text}
    (h : Text.cutAt? pair.opening (passed ++ after) =
      (Text.cutAt? pair.opening after).map (Text.prepend passed)) :
    region? kind pair (passed ++ after) =
      (region? kind pair after).map (Region.behind passed.length) := by
  unfold region?
  split
  · rfl
  · rw [h]
    cases h1 : Text.cutAt? pair.opening after with
    | none => rfl
    | some cut =>
      obtain ⟨start, behind⟩ := cut
      simp only [Option.map_some, Text.prepend, bind, Option.bind_some]
      cases h2 : Text.cutAt? pair.closing behind with
      | none => rfl
      | some cut =>
        obtain ⟨found, rest⟩ := cut
        have hlen := congrArg List.length (Text.cutAt?_eq_some h1)
        have hlen' := congrArg List.length (Text.cutAt?_eq_some h2)
        simp only [List.length_append] at hlen hlen'
        simp only [pure, List.length_append, Option.bind_some, Option.map_some, Region.behind,
          Option.some.injEq, Region.mk.injEq, and_true, true_and]
        omega

/-- The region of another kind is looked for behind the condition. -/
theorem region?_guarded_other (h : m.Distinct k) (hb : m.Absent before) (hc : m.Absent condition)
    (hk : kind' ≠ kind) :
    region? kind' (m.pair kind') (guarded m kind before condition after) =
      (region? kind' (m.pair kind') after).map
        (Region.behind (front m kind before condition).length) := by
  have hne (side side' : Side) : (kind', side) ≠ (kind, side') := fun he => hk (Prod.mk.inj he).1
  have hcut : Text.cutAt? (m.marker kind' .opening) (guarded m kind before condition after) =
      (Text.cutAt? (m.marker kind' .opening) after).map
        (Text.prepend (front m kind before condition)) := by
    unfold guarded
    rw [h.cutAt?_text hb, h.cutAt?_other (hne _ _), h.cutAt?_text hc, h.cutAt?_other (hne _ _)]
    cases Text.cutAt? (m.marker kind' .opening) after <;> simp [Text.prepend, front]
  rw [guarded_eq] at hcut ⊢
  exact region?_behind hcut

/-! ## One region, and those behind it -/

theorem regions_of_none (hk : kind' ≠ kind) (h : region? kind (m.pair kind) label = none) :
    regions m label = (region? kind' (m.pair kind') label).toList := by
  cases kind <;> cases kind' <;> simp only [Markers.pair, ne_eq, not_true_eq_false] at hk h ⊢ <;>
    simp [regions, h]

theorem regions_of_first {r : Region} (hk : kind' ≠ kind)
    (h : region? kind (m.pair kind) label = some r)
    (hlt : ∀ q, region? kind' (m.pair kind') label = some q → r.start < q.start) :
    regions m label = r :: (region? kind' (m.pair kind') label).toList := by
  cases hq : region? kind' (m.pair kind') label with
  | none =>
    cases kind <;> cases kind' <;> simp only [Markers.pair, ne_eq, not_true_eq_false] at hk h hq <;>
      simp [regions, h, hq]
  | some q =>
    have := hlt q hq
    have hle : ¬q.start < r.start := by omega
    cases kind <;> cases kind' <;> simp only [Markers.pair, ne_eq, not_true_eq_false] at hk h hq <;>
      simp [regions, h, hq, hle, this]

theorem without_behind (passed : Text) (r : Region) :
    without (r.behind passed.length) (passed ++ after) = passed ++ without r after := by
  simp [without, Region.behind, List.take_length_add_append, List.drop_length_add_append]

/-- Without its markers and its condition, a label is left with the text around them. -/
theorem without_guarded (m : Markers) (kind : Kind) (before condition after : Text) :
    without ⟨kind, before.length, (front m kind before condition).length, condition⟩
      (guarded m kind before condition after) = before ++ after := by
  have htake : (guarded m kind before condition after).take before.length = before := by
    simp [guarded]
  rw [without, htake, guarded_eq, List.drop_left]

/-- The first condition of a label is taken out, and the rest is a label of its own, if no further
condition is of the same kind. -/
theorem extract_guarded_behind (h : m.Distinct k) (hb : m.Absent before) (hc : m.Absent condition)
    (hnone : region? kind (m.pair kind) after = none) :
    extract m (guarded m kind before condition after) =
      { extract m after with text := before ++ (extract m after).text }.withCondition
        condition kind := by
  obtain ⟨kind', hk⟩ : ∃ kind', kind' ≠ kind := by
    cases kind
    · exact ⟨.hide, by decide⟩
    · exact ⟨.disable, by decide⟩
  have hself : region? kind (m.pair kind) (guarded m kind before condition after) =
      some ⟨kind, before.length, (front m kind before condition).length, condition⟩ := by
    rw [region?_guarded h hb hc, guarded_eq, List.length_append, Nat.add_sub_cancel]
  have hother : region? kind' (m.pair kind') (guarded m kind before condition after) =
      (region? kind' (m.pair kind') after).map
        (Region.behind (front m kind before condition).length) :=
    region?_guarded_other h hb hc hk
  have hlt : before.length < (front m kind before condition).length := by
    have := List.length_pos_iff.2 (h.led kind .opening).ne_nil
    simp only [front, List.length_append]
    omega
  have hfirst := regions_of_first hk hself fun q hq => by
    rw [hother] at hq
    obtain ⟨q', -, rfl⟩ := Option.map_eq_some_iff.1 hq
    simp only [Region.behind]
    omega
  rw [extract, extract, hfirst, hother, regions_of_none hk hnone]
  cases hq : region? kind' (m.pair kind') after with
  | none =>
    have htext := without_guarded m kind before condition after
    cases kind <;>
      simp [kept, ignored?, conditionOf?, Extracted.withCondition, htext]
  | some q =>
    have hqk := kind_of_region? hq
    have hapart : ¬(q.behind (front m kind before condition).length).start <
        (front m kind before condition).length := by
      simp [Region.behind]
    have htext : without ⟨kind, before.length, (front m kind before condition).length, condition⟩
        (without (q.behind (front m kind before condition).length)
          (guarded m kind before condition after)) = before ++ without q after := by
      rw [guarded_eq, without_behind, ← guarded_eq, without_guarded]
    simp only [Option.map_some, Option.toList_some, kept_pair, if_neg hapart, List.foldr_cons,
      List.foldr_nil, htext]
    cases kind <;> cases kind' <;> simp at hk <;>
      simp [kept, ignored?, conditionOf?, Extracted.withCondition, Region.behind, hqk]

/-- A text without markers has no conditions. -/
theorem extract_absent (h : m.Absent label) : extract m label = ⟨label, none, none⟩ := by
  have hnone (kind : Kind) : region? kind (m.pair kind) label = none :=
    region?_eq_none h.cutAt?_eq_none
  have hd := hnone .disable
  have hh := hnone .hide
  simp only [Markers.pair] at hd hh
  simp [extract, regions, hd, hh, kept, ignored?, conditionOf?]

/-- The condition of a label, and the text around it. -/
theorem extract_guarded (h : m.Distinct k) (hb : m.Absent before) (hc : m.Absent condition)
    (ha : m.Absent after) :
    extract m (guarded m kind before condition after) =
      ⟨before ++ after, if kind = .disable then some condition else none,
        if kind = .hide then some condition else none⟩ := by
  rw [extract_guarded_behind h hb hc (region?_eq_none ha.cutAt?_eq_none), extract_absent ha]
  cases kind <;> rfl

/-- Conditions that are put into a label come out again, and so does the text around them: two
conditions of different kinds, in either order, or a single one. -/
theorem extract_assembled :
    (Markers.short.Distinct '<' ∧ Markers.long.Distinct '<') ∧
    ∀ (m : Markers) (k : Char), m.Distinct k →
      (∀ a b p₀ c₁ p₁ c₂ p₂, a ≠ b → (∀ piece ∈ [p₀, c₁, p₁, c₂, p₂], m.Absent piece) →
        let found := extract m (p₀ ++ m.marker a .opening ++ c₁ ++ m.marker a .closing ++ p₁ ++
          m.marker b .opening ++ c₂ ++ m.marker b .closing ++ p₂)
        found.text = p₀ ++ p₁ ++ p₂ ∧ found.condition? a = some c₁ ∧
          found.condition? b = some c₂) ∧
      ∀ a b p₀ c p₁, a ≠ b → (∀ piece ∈ [p₀, c, p₁], m.Absent piece) →
        let found := extract m (p₀ ++ m.marker a .opening ++ c ++ m.marker a .closing ++ p₁)
        found.text = p₀ ++ p₁ ∧ found.condition? a = some c ∧ found.condition? b = none := by
  refine ⟨⟨Markers.short_distinct, Markers.long_distinct⟩, fun m k h => ⟨?_, ?_⟩⟩
  · intro a b p₀ c₁ p₁ c₂ p₂ hab habsent found
    simp only [List.forall_mem_cons] at habsent
    obtain ⟨hp₀, hc₁, hp₁, hc₂, hp₂, -⟩ := habsent
    have hnone : region? a (m.pair a) (guarded m b p₁ c₂ p₂) = none := by
      rw [region?_guarded_other h hp₁ hc₂ hab, region?_eq_none hp₂.cutAt?_eq_none]
      rfl
    have hfound : found = extract m (guarded m a p₀ c₁ (guarded m b p₁ c₂ p₂)) := by
      simp only [found, guarded, List.append_assoc]
    rw [hfound, extract_guarded_behind h hp₀ hc₁ hnone, extract_guarded h hp₁ hc₂ hp₂]
    cases a <;> cases b <;> simp at hab <;>
      simp [Extracted.withCondition, Extracted.condition?]
  · intro a b p₀ c p₁ hab habsent found
    simp only [List.forall_mem_cons] at habsent
    obtain ⟨hp₀, hc, hp₁, -⟩ := habsent
    have hfound : found = extract m (guarded m a p₀ c p₁) := by
      simp only [found, guarded, List.append_assoc]
    rw [hfound, extract_guarded h hp₀ hc hp₁]
    cases a <;> cases b <;> simp at hab <;> simp [Extracted.condition?]

/-- Pieces that are full of parts of markers. -/
theorem extract_assembled_long :
    let found := extract .long "a < b<hide>\\v[1]<2</hide></ <disable><d</disable><hide".toList
    let single := extract .long "<<disable></disable</disable>>".toList
    (found.text = "a < b</ <hide".toList ∧ found.condition? .hide = some "\\v[1]<2".toList ∧
      found.condition? .disable = some "<d".toList) ∧
    single.text = "<>".toList ∧ single.condition? .disable = some "</disable".toList ∧
      single.condition? .hide = none := by
  have h := extract_assembled.2 .long '<' Markers.long_distinct
  exact ⟨h.1 .hide .disable "a < b".toList "\\v[1]<2".toList "</ ".toList "<d".toList "<hide".toList
    (by decide) (by decide), h.2 .disable .hide "<".toList "</disable".toList ">".toList (by decide)
    (by decide)⟩

end Label

end DialogGate
