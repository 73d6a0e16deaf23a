/-! # Text

A text is its list of characters (Unicode scalar values); offsets and lengths count characters.

* `CharClass`: a set of characters given by ascending ranges of code points.
* `Text.cutAt?`: the two sides of the first occurrence of a marker. `cutAt?_eq_some` puts the text
  together again.
-/

namespace DialogGate

/-- Text as a list of characters. -/
abbrev Text := List Char

/-- A set of characters: disjoint ranges of code points in ascending order, both ends included. -/
abbrev CharClass := List (Nat × Nat)

/-- Membership of a code point; the search stops at the first range above it. -/
def CharClass.has : CharClass → Nat → Bool
  | [], _ => false
  | (lo, hi) :: rest, n => if n < lo then false else if n ≤ hi then true else CharClass.has rest n

namespace Text

/-- The decimal digits of a natural number. -/
def ofNat (n : Nat) : Text := Nat.toDigits 10 n

/-- What stands before and after the first occurrence of `marker`. -/
def cutAt? (marker : Text) : Text → Option (Text × Text)
  | [] => if marker.isEmpty then some ([], []) else none
  | c :: rest =>
    if marker.isPrefixOf (c :: rest) then
      some ([], (c :: rest).drop marker.length)
    else
      (cutAt? marker rest).map fun (before, after) => (c :: before, after)

theorem cutAt?_eq_some {marker text before after : Text}
    (h : cutAt? marker text = some (before, after)) : text = before ++ marker ++ after := by
  induction text generalizing before with
  | nil =>
    simp only [cutAt?] at h
    split at h
    · simp_all
    · simp at h
  | cons c rest ih =>
    simp only [cutAt?] at h
    split at h
    · next hp =>
      obtain ⟨tail, ht⟩ := List.isPrefixOf_iff_prefix.1 hp
      simp only [Option.some.injEq, Prod.mk.injEq] at h
      obtain ⟨rfl, rfl⟩ := h
      simp [← ht]
    · obtain ⟨⟨b, a⟩, hb, he⟩ := Option.map_eq_some_iff.1 h
      simp only [Prod.mk.injEq] at he
      obtain ⟨rfl, rfl⟩ := he
      simp [ih hb]

end Text

end DialogGate
