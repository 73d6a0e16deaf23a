import DialogGate.Choice
import DialogGate.Json.Basic

/-! # Values and choices as JSON

A number that JSON cannot hold becomes `null`. A choice is an object with its index, its text and
whether it can be taken.
-/

namespace DialogGate

/-- The value in JSON; infinite and undefined numbers become `null`. -/
def Value.toJson : Value → Json
  | boolean b => .boolean b
  | number x => if x.isFinite then .number (.double x) else .null

/-- The choice in JSON. -/
def Choice.toJson (c : Choice) : Json :=
  .ofFields
    [("index".toList, .number (.whole c.index)),
      ("text".toList, .string c.text),
      ("enabled".toList, .boolean c.enabled)]

/-- The choices that are shown, in JSON. -/
def Resolution.toJson (r : Resolution) : Json := .array (r.choices.map Choice.toJson)

/-- Only numbers that are not finite are lost. -/
theorem Value.toJson_eq_null_iff {v : Value} :
    v.toJson = .null ↔ ∃ x, v = .number x ∧ x.isFinite = false := by
  cases v with
  | boolean b => simp [toJson]
  | number x => cases h : x.isFinite <;> simp [toJson, h]

end DialogGate
