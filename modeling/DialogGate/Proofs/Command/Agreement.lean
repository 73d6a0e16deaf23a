import DialogGate.Command.Check
import DialogGate.Command.Resolve
import DialogGate.Json.Printer
import DialogGate.Proofs.Choice.Resolution
import DialogGate.Proofs.Label.Pieces
import Mathlib.Data.List.Permutation

/-! # Checking and resolving agree

A condition can be checked on its own, or stand in a label that is resolved. Both ways read and
evaluate it, but each on a path of its own. They come to the same verdict: the choice is disabled,
or hidden, exactly if the check ends in `true` (`endsIn_true_iff`, `holds_guarded_iff`). All other
ends of a check, its failures included, leave the choice as it is.
-/

namespace DialogGate

variable {raw vars text : Text} {v : Json} {table : Table}

/-! ## Checking -/

namespace Check

/-- A check that ends in a value, which is shown as JSON. -/
def EndsIn (c : Check) (j : Json) : Prop := ∃ found, c.run = .ok (.value found) ∧ found.toJson = j

theorem toJson_eq_true_iff {found : Value} :
    found.toJson = .boolean true ↔ found = .boolean true := by
  cases found with
  | boolean b => simp [Value.toJson]
  | number x => cases h : x.isFinite <;> simp [Value.toJson, h]

/-- A check ends in `true` exactly if the condition holds for the variables that are read. -/
theorem endsIn_true_iff (hvars : Table.read vars = .ok table) :
    EndsIn ⟨raw, some vars, false⟩ (.boolean true) ↔
      Condition.check table.store raw = .ok true := by
  rw [Condition.check_eq_ok_iff]
  simp only [EndsIn, toJson_eq_true_iff, exists_eq_right, run]
  cases he : Expr.ofText raw with
  | error e => simp
  | ok e =>
    cases hx : e.eval table.store with
    | error x => simp [Check.table, hvars, Except.bind, evaluate, hx]
    | ok x => simp [Check.table, hvars, Except.bind, evaluate, hx]

end Check

theorem Table.read_eq_ok (hj : Json.ofText? vars = some v) (hv : ofJson v = .ok table) :
    read vars = .ok table := by
  simp [read, CommandError.reading, hj, hv]

/-! ## Resolving -/

/-- A document that holds one label, and variables. -/
def Input.document (label : Text) (v : Json) : Json :=
  .object [("choices".toList, .array [.string label]), ("variables".toList, v)]

theorem Input.ofJson_document {label : Text} (hv : Table.ofJson v = .ok table) :
    ofJson (document label v) = .ok ⟨[label], table⟩ := by
  have hkey : "variables".toList ≠ "choices".toList := by simp
  have hlabels : labelsOfJson (.array [.string label]) = .ok [label] := rfl
  rw [document, ofJson]
  simp only [Json.Fields.get?_cons_self, Json.Fields.get?_cons_of_ne hkey, hlabels, hv]
  rfl

namespace Resolution

variable {markers : Markers} {store : Store} {label : Text}

theorem choices_singleton : (of markers store [label]).choices =
    (Choice.shown? markers store 0 label).toList := by
  rw [of, onto_choices, List.nil_append, List.zipIdx_singleton, List.filterMap_cons]
  cases Choice.shown? markers store 0 label <;> rfl

end Resolution

namespace Choice

variable {markers : Markers} {store : Store} {index : Nat} {label : Text}

theorem shown?_of_holds (h : Label.Holds markers store label .hide) :
    shown? markers store index label = none := by
  cases hs : shown? markers store index label with
  | none => rfl
  | some c => exact absurd h ((shown?_eq_some_iff ..).1 hs).1

theorem shown?_of_not_holds (index : Nat) (h : ¬Label.Holds markers store label .hide) :
    ∃ enabled, shown? markers store index label =
        some ⟨index, (Label.extract markers label).text, enabled, false⟩ ∧
      (enabled = false ↔ Label.Holds markers store label .disable) := by
  classical
  have hiff : (!decide (Label.Holds markers store label .disable)) = false ↔
      Label.Holds markers store label .disable := by simp
  exact ⟨_, (shown?_eq_some_iff ..).2 ⟨h, rfl, rfl, rfl, hiff⟩, hiff⟩

end Choice

namespace Resolve

/-- The list that is answered, as JSON. -/
def answer (r : Resolve) : Except CommandError Json := r.run.map Resolution.toJson

theorem answer_document {label doc : Text} {markers : Markers}
    (hdoc : Json.ofText? doc = some (Input.document label v)) (hv : Table.ofJson v = .ok table) :
    answer ⟨some doc, markers⟩ =
      .ok (.array ((Choice.shown? markers table.store 0 label).toList.map Choice.toJson)) := by
  have hread : read ⟨some doc, markers⟩ = .ok ⟨[label], table⟩ := by
    simp [read, Input.read, CommandError.reading, hdoc, Input.ofJson_document hv]
  rw [← Resolution.choices_singleton]
  simp only [answer, run, hread]
  rfl

end Resolve

/-! ## A label with one condition -/

namespace Label

variable {m : Markers} {k : Char} {store : Store} {kind kind' : Kind}

/-- The only condition that can hold is the one in the label. -/
theorem holds_guarded_iff (h : m.Distinct k) (hraw : m.Absent raw) (htext : m.Absent text) :
    Holds m store (guarded m kind [] raw text) kind' ↔
      kind' = kind ∧ Condition.check store raw = .ok true := by
  rw [Holds, extract_guarded h h.absent_nil hraw htext]
  cases kind <;> cases kind' <;> simp [Extracted.condition?]

theorem text_extract_guarded (h : m.Distinct k) (hraw : m.Absent raw) (htext : m.Absent text) :
    (extract m (guarded m kind [] raw text)).text = text := by
  rw [extract_guarded h h.absent_nil hraw htext]
  rfl

end Label

/-! ## Both on the same condition -/

/-- A choice in an answer. -/
def Choice.entry (index : Nat) (text : Text) (enabled : Bool) : Json :=
  .object [("enabled".toList, .boolean enabled), ("index".toList, .number (.whole index)),
    ("text".toList, .string text)]

theorem Choice.toJson_eq_entry (c : Choice) : c.toJson = entry c.index c.text c.enabled := rfl

/-- A check and the label that carries its condition: with the default markers, the choice is
disabled exactly if the check ends in `true`, and left out exactly if the check of its hide
condition does. -/
theorem Check.agrees_with_resolve {doc : Kind → Text} (hraw : Markers.short.Absent raw)
    (htext : Markers.short.Absent text) (hv : Table.ofJson v = .ok table)
    (hvars : Json.ofText? vars = some v)
    (hdoc : ∀ kind, Json.ofText? (doc kind) =
      some (Input.document (Label.guarded .short kind [] raw text) v)) :
    (∃ enabled, Resolve.answer ⟨some (doc .disable), .short⟩ =
        .ok (.array [Choice.entry 0 text enabled]) ∧
      (enabled = false ↔ EndsIn ⟨raw, some vars, false⟩ (.boolean true))) ∧
    (EndsIn ⟨raw, some vars, false⟩ (.boolean true) →
      Resolve.answer ⟨some (doc .hide), .short⟩ = .ok (.array [])) ∧
    (¬EndsIn ⟨raw, some vars, false⟩ (.boolean true) →
      Resolve.answer ⟨some (doc .hide), .short⟩ = .ok (.array [Choice.entry 0 text true])) := by
  have hholds (kind kind' : Kind) :
      Label.Holds .short table.store (Label.guarded .short kind [] raw text) kind' ↔
        kind' = kind ∧ Condition.check table.store raw = .ok true :=
    Label.holds_guarded_iff Markers.short_distinct hraw htext
  have hleft (kind : Kind) :
      (Label.extract .short (Label.guarded .short kind [] raw text)).text = text :=
    Label.text_extract_guarded Markers.short_distinct hraw htext
  rw [endsIn_true_iff (Table.read_eq_ok hvars hv), Resolve.answer_document (hdoc _) hv,
    Resolve.answer_document (hdoc _) hv]
  refine ⟨?_, fun hpass => ?_, fun hfail => ?_⟩
  · have hhide :
        ¬Label.Holds .short table.store (Label.guarded .short .disable [] raw text) .hide := by
      simp [hholds]
    obtain ⟨enabled, hshown, hiff⟩ := Choice.shown?_of_not_holds 0 hhide
    rw [hleft] at hshown
    refine ⟨enabled, by simp [hshown, Choice.toJson_eq_entry], ?_⟩
    rw [hiff, hholds]
    simp
  · have hhide : Label.Holds .short table.store (Label.guarded .short .hide [] raw text) .hide :=
      (hholds _ _).2 ⟨rfl, hpass⟩
    rw [Choice.shown?_of_holds hhide]
    rfl
  · have hhide : ¬Label.Holds .short table.store (Label.guarded .short .hide [] raw text) .hide :=
      fun h => hfail ((hholds _ _).1 h).2
    obtain ⟨enabled, hshown, hiff⟩ := Choice.shown?_of_not_holds 0 hhide
    have henabled : enabled = true := by
      simpa [hholds] using hiff
    rw [hleft] at hshown
    simp [hshown, henabled, Choice.toJson_eq_entry]

/-- The condition `\v[1] < 9` with the variables zero and five, in labels that read `Go`. -/
theorem Check.agrees_with_resolve_lookup :
    let vars := Json.array [.number (.whole 0), .number (.whole 5)]
    let doc kind := (Input.document
      (Label.guarded .short kind [] "\\v[1] < 9".toList "Go".toList) vars).text
    let check : Check := ⟨"\\v[1] < 9".toList, some vars.text, false⟩
    (∃ enabled, Resolve.answer ⟨some (doc .disable), .short⟩ =
        .ok (.array [Choice.entry 0 "Go".toList enabled]) ∧
      (enabled = false ↔ EndsIn check (.boolean true))) ∧
    (EndsIn check (.boolean true) → Resolve.answer ⟨some (doc .hide), .short⟩ = .ok (.array [])) ∧
    (¬EndsIn check (.boolean true) → Resolve.answer ⟨some (doc .hide), .short⟩ =
      .ok (.array [Choice.entry 0 "Go".toList true])) := by
  intro vars doc check
  have hraw : Markers.short.Absent "\\v[1] < 9".toList := by
    intro kind side
    rw [← Text.cutAt?_eq_none_iff]
    cases kind <;> cases side <;> rfl
  have htext : Markers.short.Absent "Go".toList := by
    intro kind side
    rw [← Text.cutAt?_eq_none_iff]
    cases kind <;> cases side <;> rfl
  have hv : Table.ofJson vars =
      .ok ((Table.empty.insert 0 (.ofInt 0)).insert 1 (.ofInt 5)) := by
    simp only [vars, Table.ofJson, Table.addItems, Table.entry]
    rfl
  have hvars : Json.ofText? vars.text = some vars := by
    cbv
  have hdoc (kind : Kind) : Json.ofText? (doc kind) = some (Input.document
      (Label.guarded .short kind [] "\\v[1] < 9".toList "Go".toList) vars) := by
    cases kind <;> cbv
  exact Check.agrees_with_resolve hraw htext hv hvars hdoc

end DialogGate
