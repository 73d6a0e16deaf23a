import DialogGate.Proofs.Label.Remainder

/-! # What is taken out of a label

`extractSlices` takes the conditions out of a label that is kept in UTF-8, from front to back: it
finds the markers by bytes, and copies what stands between the regions slice by slice. Any of the
slices could fail. None does, whatever the markers are, since the regions that count stand one
behind the other (`cutOut_eq`, by induction over them).

The last theorem puts together what is taken out of a label, what is left of it, and this.
-/

namespace DialogGate

/-- The bounds of a region and of what stands between its markers, in bytes. -/
structure ByteSpan where
  start : Nat
  contentStart : Nat
  contentStop : Nat
  stop : Nat
  deriving DecidableEq, Repr

open Text (BadSlice byteLength byteOffset slice)

/-- The byte at which a marker stands for the first time. -/
def Text.find? (marker text : Text) : Option Nat :=
  (cutAt? marker text).map fun cut => byteLength cut.1

/-- Finds the region of a pair of markers in a label. -/
def MarkerPair.locate (pair : MarkerPair) (label : Text) : Except BadSlice (Option ByteSpan) :=
  if pair.opening.isEmpty || pair.closing.isEmpty then .ok none
  else
    match Text.find? pair.opening label with
    | none => .ok none
    | some start => do
      let contentStart := start + byteLength pair.opening
      let behind ← slice contentStart (byteLength label) label
      match Text.find? pair.closing behind with
      | none => return none
      | some n =>
        let contentStop := contentStart + n
        return some ⟨start, contentStart, contentStop, contentStop + byteLength pair.closing⟩

/-- The same label with one more condition. -/
def Extracted.withCondition (e : Extracted) (raw : Text) : Kind → Extracted
  | .disable => { e with disable := some raw }
  | .hide => { e with hide := some raw }

namespace Label

/-- The one that starts first in front, the disable region if both start at one place. -/
def orderSpans : Option ByteSpan → Option ByteSpan → List (Kind × ByteSpan)
  | some d, some h =>
    if h.start < d.start then [(.hide, h), (.disable, d)] else [(.disable, d), (.hide, h)]
  | d, h => (d.map (Kind.disable, ·)).toList ++ (h.map (Kind.hide, ·)).toList

/-- Without a second one that starts before the first one ends. -/
def dropOverlap : List (Kind × ByteSpan) → List (Kind × ByteSpan)
  | [a, b] => if b.2.start < a.2.stop then [a] else [a, b]
  | found => found

/-- Copies what stands between regions from the byte `cursor` on, and the conditions in them. -/
def cutOut (label : Text) (cursor : Nat) (out : Extracted) :
    List (Kind × ByteSpan) → Except BadSlice Extracted
  | [] => do
    let last ← slice cursor (byteLength label) label
    return { out with text := out.text ++ last }
  | (kind, span) :: later => do
    let between ← slice cursor span.start label
    let raw ← slice span.contentStart span.contentStop label
    cutOut label span.stop ({ out with text := out.text ++ between }.withCondition raw kind) later

/-- Takes the conditions out of a label from front to back, slice by slice. -/
def extractSlices (markers : Markers) (label : Text) : Except BadSlice Extracted := do
  let d ← markers.disable.locate label
  let h ← markers.hide.locate label
  cutOut label 0 ⟨[], none, none⟩ (dropOverlap (orderSpans d h))

/-- The same region, its bounds being counted in bytes. -/
structure Measures (label : Text) (span : ByteSpan) (r : Region) : Prop where
  start : span.start = byteOffset label r.start
  stop : span.stop = byteOffset label r.stop
  content : slice span.contentStart span.contentStop label = .ok r.condition

/-- Looking for the markers by bytes finds the same region, and no slice fails. -/
theorem locate_eq (kind : Kind) (pair : MarkerPair) (label : Text) :
    ∃ found, pair.locate label = .ok found ∧
      Option.Rel (Measures label) found (region? kind pair label) := by
  unfold MarkerPair.locate region? Text.find?
  by_cases hne : (pair.opening.isEmpty || pair.closing.isEmpty) = true
  · rw [if_pos hne, if_pos hne]
    exact ⟨none, rfl, .none⟩
  rw [if_neg hne, if_neg hne]
  cases h1 : Text.cutAt? pair.opening label with
  | none => exact ⟨none, rfl, .none⟩
  | some cut =>
    obtain ⟨before, behind⟩ := cut
    have hlabel := Text.cutAt?_eq_some h1
    have hbehind : slice (byteLength before + byteLength pair.opening) (byteLength label) label =
        .ok behind := by
      have h := Text.slice_append (before ++ pair.opening) behind []
      rwa [List.append_nil, ← hlabel, Text.byteLength_append] at h
    simp only [Option.map_some, hbehind, bind, Except.bind, Option.bind_some]
    cases h2 : Text.cutAt? pair.closing behind with
    | none => exact ⟨none, rfl, .none⟩
    | some cut =>
      obtain ⟨condition, after⟩ := cut
      have hwhole : label = (before ++ pair.opening ++ condition ++ pair.closing) ++ after := by
        rw [hlabel, Text.cutAt?_eq_some h2]
        simp only [List.append_assoc]
      refine ⟨_, rfl, .some ⟨?_, ?_, ?_⟩⟩
      · show byteLength before = byteLength (label.take before.length)
        rw [hlabel, List.append_assoc, List.take_left]
      · show _ = byteLength (label.take (label.length - after.length))
        rw [hwhole, List.length_append, Nat.add_sub_cancel, List.take_left]
        simp only [Text.byteLength_append]
      · have h := Text.slice_append (before ++ pair.opening) condition (pair.closing ++ after)
        simp only [Text.byteLength_append, ← List.append_assoc, ← hwhole] at h
        exact h

/-- The same region of the same kind. -/
def Located (label : Text) (found : Kind × ByteSpan) (r : Region) : Prop :=
  found.1 = r.kind ∧ Measures label found.2 r

section
variable {label : Text} {spans : List (Kind × ByteSpan)} {found : List Region}

/-- Bytes order the bounds of regions as characters do. -/
theorem Measures.lt_iff {s t : ByteSpan} {a b : Region} (hs : Measures label s a)
    (ht : Measures label t b) (hb : b.start ≤ label.length) :
    s.start < t.start ↔ a.start < b.start := by
  rw [hs.start, ht.start, Text.byteOffset_lt_iff hb]

theorem located_regions (markers : Markers) {d h : Option ByteSpan}
    (hd : Option.Rel (Measures label) d (region? .disable markers.disable label))
    (hh : Option.Rel (Measures label) h (region? .hide markers.hide label)) :
    List.Forall₂ (Located label) (orderSpans d h) (regions markers label) := by
  have hkind {k : Kind} {pair : MarkerPair} {r : Region} (h : region? k pair label = some r) :
      k = r.kind := (kind_of_region? h).symm
  unfold regions orderSpans
  generalize hrd : region? .disable markers.disable label = rd at hd
  generalize hrh : region? .hide markers.hide label = rh at hh
  cases hd with
  | none =>
    cases hh with
    | none => exact .nil
    | some hm => exact .cons ⟨hkind hrh, hm⟩ .nil
  | some dm =>
    cases hh with
    | none => exact .cons ⟨hkind hrd, dm⟩ .nil
    | some hm =>
      have hlen := region?_bounds hrd
      simp only [hm.lt_iff dm (by omega)]
      split
      · exact .cons ⟨hkind hrh, hm⟩ (.cons ⟨hkind hrd, dm⟩ .nil)
      · exact .cons ⟨hkind hrd, dm⟩ (.cons ⟨hkind hrh, hm⟩ .nil)

theorem located_kept (h : List.Forall₂ (Located label) spans found)
    (hb : ∀ r ∈ found, r.stop ≤ label.length) :
    List.Forall₂ (Located label) (dropOverlap spans) (kept found) := by
  cases h with
  | nil => exact .nil
  | @cons x a _ _ ha h =>
    cases h with
    | nil => exact .cons ha .nil
    | @cons y b _ _ hb' h =>
      cases h with
      | cons hc h => exact .cons ha (.cons hb' (.cons hc h))
      | nil =>
        have hlt : y.2.start < x.2.stop ↔ b.start < a.stop := by
          rw [hb'.2.start, ha.2.stop, Text.byteOffset_lt_iff (hb a (.head _))]
        show List.Forall₂ _ (if y.2.start < x.2.stop then [x] else [x, y]) _
        simp only [kept_pair, hlt]
        split
        · exact .cons ha .nil
        · exact .cons ha (.cons hb' .nil)

/-- A label with the conditions of further regions. -/
def withConditions (e : Extracted) (found : List Region) : Extracted :=
  found.foldl (fun e r => e.withCondition r.condition r.kind) e

/-- From the start of a region on, no slice fails that is copied. -/
theorem cutOut_eq {start : Nat} (h : List.Forall₂ (Located label) spans found)
    (hw : Within label.length start found) (out : Extracted) :
    cutOut label (byteOffset label start) out spans =
      .ok (withConditions { out with text := out.text ++ remaining label start found } found) := by
  induction h generalizing start out with
  | nil =>
    rw [cutOut, Text.slice_byteOffset_end hw]
    rfl
  | @cons span r spans found hr h ih =>
    obtain ⟨hk, hm⟩ := hr
    obtain ⟨hstart, hstop, hlater⟩ := hw
    have hbetween : slice (byteOffset label start) span.2.start label =
        .ok (label.extract start r.start) := by
      rw [hm.start, Text.slice_byteOffset label hstart]
    rw [cutOut, hbetween, hm.content, hk]
    show cutOut label span.2.stop _ spans = _
    rw [hm.stop, ih hlater, withConditions, withConditions, List.foldl_cons]
    -- a further condition does not touch the text
    cases r.kind <;> simp [Extracted.withCondition, remaining]

end

section
variable (markers : Markers) (label : Text)

/-- No slice fails, and what is put together from the slices is what is left of the label. -/
theorem extractSlices_eq : extractSlices markers label = .ok (extract markers label) := by
  obtain ⟨d, hd, hdm⟩ := locate_eq .disable markers.disable label
  obtain ⟨h, hh, hhm⟩ := locate_eq .hide markers.hide label
  have hregions := located_regions markers hdm hhm
  have hkept : List.Forall₂ (Located label) (dropOverlap (orderSpans d h))
      (kept (regions markers label)) :=
    located_kept hregions fun r hr => (mem_regions_iff.1 hr).bounds.2
  have hcut := cutOut_eq hkept (within_kept markers label) ⟨[], none, none⟩
  have hconditions (t : Text) : withConditions ⟨t, none, none⟩ (kept (regions markers label)) =
      ⟨t, conditionOf? .disable (kept (regions markers label)),
        conditionOf? .hide (kept (regions markers label))⟩ := by
    rcases kept_cases markers label with hk | ⟨a, hk⟩ | ⟨a, b, hk, hab, -⟩
    · rw [hk]
      rfl
    · rw [hk]
      obtain ⟨kind, start, stop, raw⟩ := a
      cases kind <;> rfl
    · rw [hk]
      obtain ⟨kind, start, stop, raw⟩ := a
      obtain ⟨kind', start', stop', raw'⟩ := b
      cases kind <;> cases kind'
      · exact absurd rfl hab
      · rfl
      · rfl
      · exact absurd rfl hab
  rw [extractSlices, hd, hh]
  show cutOut label 0 _ _ = _
  have htext := text_extract_eq_remaining markers label
  have hzero : byteOffset label 0 = 0 := rfl
  rw [← hzero, hcut, hconditions, List.nil_append, ← htext]
  rfl

/-- What is taken out of a label are its regions, without one that starts inside an earlier one;
what is left is all other text. Done by bytes, no slice fails. -/
theorem extract_exact :
    (∀ kind raw, (extract markers label).condition? kind = some raw ↔
      ∃ r, Kept markers label r ∧ r.kind = kind ∧ r.condition = raw) ∧
    (extract markers label).text = Text.outside (Covered markers label) 0 label ∧
    extractSlices markers label = .ok (extract markers label) := by
  refine ⟨fun kind raw => ?_, text_extract_eq_outside markers label, extractSlices_eq markers label⟩
  rw [condition?_extract, conditionOf?_kept_eq_some_iff]

end

end Label

end DialogGate
