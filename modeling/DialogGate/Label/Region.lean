import DialogGate.Label.Marker

/-! # Conditions inside a label

The region of a kind reaches from the first opening marker to the first closing marker behind it.
Of two regions that overlap, the one that starts later is ignored (the hide region, if both start at
the same place). `Label.extract` takes the regions that are kept out of the label.

* `region?_eq_some`: the label is what stands before, between and behind the two markers.
* `region?_bounds`: a region lies inside its label.
-/

namespace DialogGate

/-- A condition in a label, and the part of the label that it takes up together with its markers. -/
structure Region where
  kind : Kind
  start : Nat
  stop : Nat
  condition : Text
  deriving DecidableEq, Repr

/-- A label without its regions, and the conditions that stood in them. -/
structure Extracted where
  text : Text
  disable : Option Text
  hide : Option Text
  deriving DecidableEq, Repr

/-- The condition of a kind. -/
def Extracted.condition? (e : Extracted) : Kind → Option Text
  | .disable => e.disable
  | .hide => e.hide

namespace Label

/-- The region of a kind: the first opening marker and the first closing marker behind it. There is
none without both markers, and an empty marker is never found. -/
def region? (kind : Kind) (pair : MarkerPair) (label : Text) : Option Region :=
  if pair.opening.isEmpty || pair.closing.isEmpty then none
  else do
    let (before, behind) ← Text.cutAt? pair.opening label
    let (condition, after) ← Text.cutAt? pair.closing behind
    return ⟨kind, before.length, label.length - after.length, condition⟩

/-- The regions of both kinds, the one that starts first in front. -/
def regions (markers : Markers) (label : Text) : List Region :=
  match region? .disable markers.disable label, region? .hide markers.hide label with
  | some d, some h => if h.start < d.start then [h, d] else [d, h]
  | d, h => d.toList ++ h.toList

/-- The region that is ignored because it starts before another one ends. -/
def ignored? : List Region → Option Region
  | [first, second] => if second.start < first.stop then some second else none
  | _ => none

/-- The regions that count. -/
def kept (found : List Region) : List Region :=
  match ignored? found with
  | some _ => found.take 1
  | none => found

/-- Takes a region out of a label. -/
def without (region : Region) (label : Text) : Text :=
  label.take region.start ++ label.drop region.stop

/-- The condition of a kind among regions. -/
def conditionOf? (kind : Kind) (found : List Region) : Option Text :=
  (found.find? (·.kind = kind)).map (·.condition)

/-- Takes the regions that count out of a label, the last one first. -/
def extract (markers : Markers) (label : Text) : Extracted :=
  let found := kept (regions markers label)
  ⟨found.foldr without label, conditionOf? .disable found, conditionOf? .hide found⟩

/-! ## Where a region is -/

theorem region?_eq_some {kind : Kind} {pair : MarkerPair} {label : Text} {r : Region}
    (h : region? kind pair label = some r) :
    ∃ before after, label = before ++ pair.opening ++ r.condition ++ pair.closing ++ after ∧
      r.kind = kind ∧ r.start = before.length ∧ r.stop + after.length = label.length := by
  unfold region? at h
  split at h
  · simp at h
  · simp only [bind, Option.bind_eq_some_iff, pure, Option.some.injEq] at h
    obtain ⟨⟨before, behind⟩, h1, ⟨condition, after⟩, h2, rfl⟩ := h
    have e1 := Text.cutAt?_eq_some h1
    have e2 : behind = _ := Text.cutAt?_eq_some h2
    refine ⟨before, after, by simp [e1, e2], rfl, rfl, ?_⟩
    simp only [e1, e2, List.length_append]
    omega

theorem region?_bounds {kind : Kind} {pair : MarkerPair} {label : Text} {r : Region}
    (h : region? kind pair label = some r) : r.start ≤ r.stop ∧ r.stop ≤ label.length := by
  obtain ⟨before, after, hl, -, hs, he⟩ := region?_eq_some h
  have := congrArg List.length hl
  simp only [List.length_append] at this
  omega

end Label

end DialogGate
