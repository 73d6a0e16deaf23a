import DialogGate.Proofs.Command.Agreement
import DialogGate.Proofs.Exchange.Shape

/-! # Only the shape of the input can fail

Resolving a list never fails on a label, a marker or a condition. It fails exactly on the faults of
the input (`Input.Fault`), and what it answers is otherwise the list of the choices that are shown
(`Resolve.answer_exact`).
-/

namespace DialogGate

namespace Resolve

variable {text : Text} {j : Json} {input : Input} {x : InputError}

theorem answer_of_shape (markers : Markers) (hj : Json.ofText? text = some j)
    (h : Input.Shape j input) : answer ⟨some text, markers⟩ =
      .ok (.array ((Resolution.of markers input.table.store input.labels).choices.map fun c =>
        Choice.entry c.index c.text c.enabled)) := by
  have hread : read ⟨some text, markers⟩ = .ok input := by
    simp [read, Input.read, CommandError.reading, hj, h.ok]
  simp only [answer, run, hread]
  rfl

theorem answer_of_fault (markers : Markers) (hj : Json.ofText? text = some j)
    (h : Input.Fault j x) : answer ⟨some text, markers⟩ = .error (.input x) := by
  have hread : read ⟨some text, markers⟩ = .error (.input x) := by
    simp [read, Input.read, CommandError.reading, hj, h.error]
  simp only [answer, run, hread]
  rfl

/-- For every text that the reader of JSON accepts (`Json.ofText?`, with its limits on nesting, on
the range of numbers and on escaped surrogates), an answer is given if and only if the value read
has the shape of an input, and else its fault is reported, whatever the markers are and whatever
stands in the labels. The answer is the array of the choices that the labels are resolved to with
the table: in the order of their indices, one for each label whose hide condition does not hold. -/
theorem answer_exact (markers : Markers) {text : Text} {j : Json}
    (hj : Json.ofText? text = some j) :
    ((∃ out, answer ⟨some text, markers⟩ = .ok out) ↔ ∃ input, Input.Shape j input) ∧
    (∀ input, Input.Shape j input →
      let choices := (Resolution.of markers input.table.store input.labels).choices
      answer ⟨some text, markers⟩ =
        .ok (.array (choices.map fun c => Choice.entry c.index c.text c.enabled)) ∧
      choices.Pairwise (·.index < ·.index) ∧
      ∀ c, c ∈ choices ↔ ∃ label, input.labels[c.index]? = some label ∧
        ¬Label.Holds markers input.table.store label .hide ∧
        c.text = (Label.extract markers label).text ∧ c.hidden = false ∧
        (c.enabled = false ↔ Label.Holds markers input.table.store label .disable)) ∧
    ∀ e, answer ⟨some text, markers⟩ = .error e ↔ ∃ x, e = .input x ∧ Input.Fault j x := by
  have hok : (∃ out, answer ⟨some text, markers⟩ = .ok out) ↔ ∃ input, Input.Shape j input := by
    constructor
    · rintro ⟨out, hout⟩
      rcases Input.shape_or_fault j with hs | ⟨x, hx⟩
      · exact hs
      · rw [answer_of_fault markers hj hx] at hout
        cases hout
    · rintro ⟨input, hs⟩
      exact ⟨_, answer_of_shape markers hj hs⟩
  refine ⟨hok, fun input hs => ⟨answer_of_shape markers hj hs,
    Resolution.choices_ascending .., fun c => Resolution.mem_choices_iff ..⟩, fun e => ?_⟩
  constructor
  · intro he
    rcases Input.shape_or_fault j with ⟨input, hs⟩ | ⟨x, hx⟩
    · rw [answer_of_shape markers hj hs] at he
      cases he
    · rw [answer_of_fault markers hj hx, Except.error.injEq] at he
      exact ⟨x, he.symm, hx⟩
  · rintro ⟨x, rfl, hx⟩
    exact answer_of_fault markers hj hx

/-- One label is answered with one choice, whatever stands in it; and of two faults, one in the
variables and one in the labels, the former is reported. -/
theorem answer_exact_array :
    (∃ out, answer ⟨some "[\"Go\"]".toList, .short⟩ = .ok out) ∧
    answer ⟨some "\x7b\"choices\":[1],\"variables\":[0,null,true]\x7d".toList, .short⟩ =
      .error (.input (.notANumber 2 (.boolean true))) := by
  have hlist : Json.ofText? "[\"Go\"]".toList = some (.ofLabels ["Go".toList]) := by
    cbv
  have hfaulty : Json.ofText? "\x7b\"choices\":[1],\"variables\":[0,null,true]\x7d".toList =
      some (.object [("choices".toList, .array [.number (.whole 1)]),
        ("variables".toList, .array [.number (.whole 0), .null, .boolean true])]) := by
    cbv
  have hmisfit : FirstMisfit Json.IsItem [.number (.whole 0), .null, .boolean true] 2
      (.boolean true) :=
    .cons (.inr ⟨_, rfl⟩) (.cons (.inl rfl) (.head (by simp [Json.IsItem, Json.IsNumber]) _))
  exact ⟨(answer_exact .short hlist).1.2 ⟨_, .array⟩, ((answer_exact .short hfaulty).2.2 _).2
    ⟨_, rfl, .table (Json.Fields.get?_cons_self ..) rfl (.item hmisfit)⟩⟩

end Resolve

end DialogGate
