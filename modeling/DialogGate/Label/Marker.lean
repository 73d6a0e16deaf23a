import DialogGate.Text.Basic

/-! # Markers

A label holds its conditions between markers, one pair for each kind of condition.
-/

namespace DialogGate

/-- What a condition of a label decides. -/
inductive Kind where
  /-- The choice cannot be taken while the condition holds. -/
  | disable
  /-- The choice is not shown while the condition holds. -/
  | hide
  deriving DecidableEq, Repr

/-- The name of a kind in messages. -/
def Kind.name : Kind → Text
  | disable => "disable".toList
  | hide => "hide".toList

/-- The markers around one condition. -/
structure MarkerPair where
  opening : Text
  closing : Text
  deriving DecidableEq, Repr

/-- The markers of both kinds of condition. -/
structure Markers where
  disable : MarkerPair
  hide : MarkerPair
  deriving DecidableEq, Repr

namespace Markers

/-- The markers of a kind. -/
def pair (m : Markers) : Kind → MarkerPair
  | .disable => m.disable
  | .hide => m.hide

/-- The markers that are used unless others are chosen: `<dis>…</dis>` and `<hide>…</hide>`. -/
def short : Markers :=
  ⟨⟨"<dis>".toList, "</dis>".toList⟩, ⟨"<hide>".toList, "</hide>".toList⟩⟩

/-- The markers `<disable>…</disable>` and `<hide>…</hide>`. -/
def long : Markers :=
  ⟨⟨"<disable>".toList, "</disable>".toList⟩, ⟨"<hide>".toList, "</hide>".toList⟩⟩

end Markers

end DialogGate
