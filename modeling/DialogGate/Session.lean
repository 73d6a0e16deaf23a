import DialogGate.Command.Error
import DialogGate.Log.Resolving

/-! # Sessions

A session keeps what a host keeps between two renderings of a dialog: the variables, the markers,
the labels, the diagnostics of the labels that were resolved one by one, and one compiled condition.
A step changes it and has a reply. A step that fails changes nothing.

* `step_load_error`, `step_compile_error`: a table or a condition that cannot be read changes
  nothing.
-/

namespace DialogGate

/-- What is kept between two steps. -/
structure Session where
  table : Table
  markers : Markers
  labels : List Text
  diagnostics : List Diagnostic
  condition : Expr

namespace Session

/-- Nothing has been set yet. -/
def start : Session := ⟨Table.empty, Markers.short, [], [], .boolean false⟩

/-- What can be asked of a session. -/
inductive Step where
  | set (index : Nat) (value : Binary64)
  | unset (index : Nat)
  /-- Replace the table by one in JSON. -/
  | load (json : Text)
  | mark (markers : Markers)
  | label (labels : List Text)
  /-- The texts of the choices that are shown. -/
  | preview
  /-- The choices that are shown. -/
  | final
  /-- The choices that are shown and the conditions that fail. -/
  | resolve
  /-- Resolve one label on its own and keep its diagnostics. -/
  | one (index : Nat) (label : Text)
  | compile (raw : Text)
  /-- Evaluate the compiled condition. -/
  | eval
  | check (raw : Text)

/-- What a step replies. -/
inductive Reply where
  | table (t : Table)
  | markers (m : Markers)
  | count (n : Nat)
  | texts (ts : List Text)
  | choices (cs : List Choice)
  | resolution (r : Resolution)
  /-- A choice and all diagnostics kept so far. -/
  | choice (c : Choice) (kept : List Diagnostic)
  | canonical (t : Text)
  | value (v : Value)
  | holds (b : Bool)
  | failed (e : CommandError)
  | notCompiled (e : ParseError)
  | notEvaluated (e : EvalError)
  | notChecked (e : ConditionError)

/-- The labels resolved with the variables of the session. -/
def resolution (s : Session) : Resolution := Resolution.of s.markers s.table.store s.labels

/-- Replaces the table. -/
def withTable (s : Session) (t : Table) : Session × Reply := ({ s with table := t }, .table t)

/-- Does one step. -/
def step (s : Session) : Step → Session × Reply
  | .set index value => s.withTable (s.table.insert index value)
  | .unset index => s.withTable (s.table.erase index)
  | .load json =>
    match Table.read json with
    | .ok t => s.withTable t
    | .error e => (s, .failed e)
  | .mark markers => ({ s with markers := markers }, .markers markers)
  | .label labels => ({ s with labels := labels }, .count labels.length)
  | .preview => (s, .texts (s.resolution.choices.map (·.text)))
  | .final => (s, .choices s.resolution.choices)
  | .resolve => (s, .resolution s.resolution)
  | .one index label =>
    let (choice, kept) := Choice.resolve s.markers s.table.store index label s.diagnostics
    ({ s with diagnostics := kept }, .choice choice kept)
  | .compile raw =>
    match Expr.ofText raw with
    | .ok e => ({ s with condition := e }, .canonical e.text)
    | .error e => (s, .notCompiled e)
  | .eval =>
    match s.condition.eval s.table.store with
    | .ok v => (s, .value v)
    | .error e => (s, .notEvaluated e)
  | .check raw =>
    match Condition.check s.table.store raw with
    | .ok b => (s, .holds b)
    | .error e => (s, .notChecked e)

/-- What a step tells. -/
def log (s : Session) : Step → List Log.Record
  | .preview | .final | .resolve => Resolution.log s.markers s.table.store s.labels
  | .one index label => Choice.log s.markers s.table.store index label
  | .compile raw | .check raw => Expr.log raw
  | _ => []

/-- Does steps one after the other: the reply and the log of each. -/
def run (s : Session) : List Step → List (Reply × List Log.Record)
  | [] => []
  | first :: later =>
    let (next, reply) := s.step first
    (reply, s.log first) :: next.run later

theorem step_load_error {s : Session} {json : Text} {e : CommandError}
    (h : Table.read json = .error e) : s.step (.load json) = (s, .failed e) := by
  simp [step, h]

theorem step_compile_error {s : Session} {raw : Text} {e : ParseError}
    (h : Expr.ofText raw = .error e) : s.step (.compile raw) = (s, .notCompiled e) := by
  simp [step, h]

end Session

end DialogGate
