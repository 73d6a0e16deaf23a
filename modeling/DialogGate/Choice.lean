import DialogGate.Condition
import DialogGate.Label.Region

/-! # Choices

Resolving a list of labels gives what a player sees: hidden choices are left out, disabled ones stay
and are marked. A condition that fails counts as false and is kept as a `Diagnostic`; it never keeps
another condition or another label from being resolved.

The labels are resolved one after the other, and so are the two conditions of a label: each of these
steps is given the diagnostics kept so far.
-/

namespace DialogGate

/-- A label after its conditions have been applied. -/
structure Choice where
  /-- The place of the label in its list. -/
  index : Nat
  /-- The label without its conditions. -/
  text : Text
  enabled : Bool
  hidden : Bool
  deriving DecidableEq, Repr

/-- A condition that failed. -/
structure Diagnostic where
  /-- The place of the label in its list. -/
  index : Nat
  kind : Kind
  /-- The condition as it stands between the markers. -/
  condition : Text
  error : ConditionError

/-- What became of a list of labels. -/
structure Resolution where
  /-- The choices that are shown. -/
  choices : List Choice
  diagnostics : List Diagnostic

namespace Extracted

/-- Checks the condition of a kind. A missing condition does not hold; neither does one that fails,
and its failure is put behind those kept so far. -/
def check (e : Extracted) (store : Store) (index : Nat) (kind : Kind) (kept : List Diagnostic) :
    Bool × List Diagnostic :=
  match e.condition? kind with
  | none => (false, kept)
  | some raw =>
    match Condition.check store raw with
    | .ok holds => (holds, kept)
    | .error error => (false, kept ++ [⟨index, kind, raw, error⟩])

end Extracted

/-- Applies the conditions of one label, the disable condition first. -/
def Choice.resolve (markers : Markers) (store : Store) (index : Nat) (label : Text)
    (kept : List Diagnostic) : Choice × List Diagnostic :=
  let e := Label.extract markers label
  let (disabled, kept) := e.check store index .disable kept
  let (hidden, kept) := e.check store index .hide kept
  (⟨index, e.text, !disabled, hidden⟩, kept)

namespace Resolution

/-- Resolves one more label. -/
def add (markers : Markers) (store : Store) (r : Resolution) (index : Nat) (label : Text) :
    Resolution :=
  let (choice, diagnostics) := Choice.resolve markers store index label r.diagnostics
  ⟨if choice.hidden then r.choices else r.choices ++ [choice], diagnostics⟩

/-- Resolves the labels from `index` on. -/
def onto (markers : Markers) (store : Store) (r : Resolution) (index : Nat) :
    List Text → Resolution
  | [] => r
  | label :: labels => onto markers store (r.add markers store index label) (index + 1) labels

/-- Resolves a list of labels. -/
def of (markers : Markers) (store : Store) (labels : List Text) : Resolution :=
  onto markers store ⟨[], []⟩ 0 labels

end Resolution

end DialogGate
