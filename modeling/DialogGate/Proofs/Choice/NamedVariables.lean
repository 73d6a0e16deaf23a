import DialogGate.Proofs.Choice.Resolution
import DialogGate.Proofs.Expr.Literals
import DialogGate.Proofs.Label.Remainder
import Mathlib.Logic.Function.Basic

/-! # Only the variables that are named matter

Which variables a label names can be told from its text: they are the literal indices in the trees
of its conditions (`Label.Names`), and only the regions that count hold conditions
(`Label.names_iff_kept`). All that is read from a store are these variables (`Expr.eval_congr`, by
induction on the tree), so two stores that agree on them resolve a list of labels to the same
choices and the same diagnostics.
-/

namespace DialogGate

open Grammar

/-! ## Which variables are named -/

/-- A tree names a variable if a number that stands for it is an index in the tree. -/
def Expr.Names (e : Expr) (i : Nat) : Prop := ∃ x, number x ∈ e.indices ∧ indexOf? x = some i

/-- A raw condition that can be read names the variables of its tree. -/
def Condition.Names (raw : Text) (i : Nat) : Prop := ∃ e, Expr.ofText raw = .ok e ∧ e.Names i

/-- A label names the variables of the conditions that are taken out of it. -/
def Label.Names (markers : Markers) (label : Text) (i : Nat) : Prop :=
  ∃ kind raw, (extract markers label).condition? kind = some raw ∧ Condition.Names raw i

/-- What stands in no region, or in one that is dropped, names nothing. -/
theorem Label.names_iff_kept {markers : Markers} {label : Text} {i : Nat} :
    Names markers label i ↔ ∃ r, Kept markers label r ∧ Condition.Names r.condition i := by
  simp only [Names, condition?_extract, conditionOf?_kept_eq_some_iff]
  constructor
  · rintro ⟨_, _, ⟨r, hr, rfl, rfl⟩, hn⟩
    exact ⟨r, hr, hn⟩
  · rintro ⟨r, hr, hn⟩
    exact ⟨r.kind, r.condition, ⟨r, hr, rfl, rfl⟩, hn⟩

/-! ## Two stores that agree -/

/-- Two stores hold the same numbers in the given variables. -/
def Store.AgreeOn (named : Nat → Prop) (store store' : Store) : Prop :=
  ∀ i, named i → store i = store' i

theorem Store.AgreeOn.mono {named named' : Nat → Prop} {store store' : Store}
    (h : AgreeOn named store store') (hsub : ∀ i, named' i → named i) :
    AgreeOn named' store store' := by
  intro i hi
  exact h i (hsub i hi)

variable {store store' : Store} {markers : Markers}

theorem Value.lookupIn_congr {x : Binary64}
    (h : ∀ i, indexOf? x = some i → store i = store' i) :
    (number x).lookupIn store = (number x).lookupIn store' := by
  rw [lookupIn, lookupIn]
  cases hx : indexOf? x with
  | none => rfl
  | some i =>
    show Except.ok (number (store i)) = Except.ok (number (store' i))
    rw [h i hx]

/-- Both operands are always evaluated, so nothing but the variables that a tree names is read, and
all of them are. -/
theorem Expr.eval_congr {e : Expr} (hlit : ∀ i ∈ e.indices, ∃ x, i = .number x)
    (h : Store.AgreeOn e.Names store store') : e.eval store = e.eval store' := by
  induction e with
  | boolean b => rfl
  | number x => rfl
  | lookup index =>
    -- the index is a literal, so the variable that it names does not depend on the store
    obtain ⟨x, rfl⟩ := hlit index (.head _)
    exact Value.lookupIn_congr fun i hi => h i ⟨x, .head _, hi⟩
  | not operand ih =>
    have ho : operand.eval store = operand.eval store' := ih hlit h
    rw [eval, eval, ho]
  | binary op left right ihl ihr =>
    have hl : left.eval store = left.eval store' := by
      refine ihl (fun i hi => hlit i (List.mem_append_left _ hi)) (h.mono ?_)
      rintro i ⟨x, hx, hi⟩
      exact ⟨x, List.mem_append_left _ hx, hi⟩
    have hr : right.eval store = right.eval store' := by
      refine ihr (fun i hi => hlit i (List.mem_append_right _ hi)) (h.mono ?_)
      rintro i ⟨x, hx, hi⟩
      exact ⟨x, List.mem_append_right _ hx, hi⟩
    rw [eval, eval, hl, hr]

theorem Condition.check_congr {raw : Text} (h : Store.AgreeOn (Names raw) store store') :
    check store raw = check store' raw := by
  unfold check
  cases hp : Expr.ofText raw with
  | error e => rfl
  | ok e =>
    have he : e.eval store = e.eval store' := by
      refine Expr.eval_congr (fun i hi => ?_) (h.mono fun i hi => ⟨e, hp, hi⟩)
      obtain ⟨digits, -, -, hi⟩ := Expr.indices_of_ofText hp i hi
      exact ⟨_, hi⟩
    dsimp only
    rw [he]

theorem Extracted.check_congr {e : Extracted} {index : Nat} {kind : Kind} {kept : List Diagnostic}
    (h : ∀ raw, e.condition? kind = some raw →
      Store.AgreeOn (Condition.Names raw) store store') :
    e.check store index kind kept = e.check store' index kind kept := by
  unfold check
  cases hc : e.condition? kind with
  | none => rfl
  | some raw =>
    dsimp only
    rw [Condition.check_congr (h raw hc)]

theorem Choice.resolve_congr {index : Nat} {label : Text} {kept : List Diagnostic}
    (h : Store.AgreeOn (Label.Names markers label) store store') :
    resolve markers store index label kept = resolve markers store' index label kept := by
  have hcheck (kind : Kind) (kept : List Diagnostic) :
      (Label.extract markers label).check store index kind kept =
        (Label.extract markers label).check store' index kind kept :=
    Extracted.check_congr fun raw hraw => h.mono fun i hi => ⟨kind, raw, hraw, hi⟩
  simp only [resolve, hcheck]

namespace Resolution

theorem onto_congr {labels : List Text} {r : Resolution} {index : Nat}
    (h : ∀ label ∈ labels, Store.AgreeOn (Label.Names markers label) store store') :
    onto markers store r index labels = onto markers store' r index labels := by
  induction labels generalizing r index with
  | nil => rfl
  | cons label labels ih =>
    have hadd : r.add markers store index label = r.add markers store' index label := by
      rw [add, add, Choice.resolve_congr (h label (.head _))]
    rw [onto, onto, hadd]
    exact ih fun label' hl => h label' (.tail _ hl)

/-- Two stores that agree on the variables that the labels name, resolve them alike; so a variable
that no condition names can be set to anything. What stands outside the regions that count names
nothing. -/
theorem depends_on_named :
    (∀ labels (store store' : Store),
      (∀ label ∈ labels, ∀ i, Label.Names markers label i → store i = store' i) →
      of markers store labels = of markers store' labels) ∧
    (∀ labels (store : Store) i x, (∀ label ∈ labels, ¬Label.Names markers label i) →
      of markers (Function.update store i x) labels = of markers store labels) ∧
    ∀ label i, Label.Names markers label i ↔
      ∃ r, Label.Kept markers label r ∧ Condition.Names r.condition i := by
  refine ⟨fun labels store store' h => onto_congr h, fun labels store i x h => ?_,
    fun label i => Label.names_iff_kept⟩
  refine onto_congr fun label hl j hj => ?_
  have hne : j ≠ i := by
    rintro rfl
    exact h label hl hj
  exact Function.update_of_ne hne x store

/-- The hide region of the label starts inside its disable region, so the label names the variable
of the disable condition, and neither of the other two. -/
theorem depends_on_named_disable :
    let markers : Markers :=
      ⟨⟨"<a>".toList, "</a>".toList⟩, ⟨"</a>".toList, "</h>".toList⟩⟩
    let labels := ["<a>\\v[1]>2</a>\\v[3]</h>\\v[4]".toList]
    of markers Store.identity labels = of markers (Store.ofList [.ofNat 0, .ofNat 1]) labels := by
  intro markers labels
  refine depends_on_named.1 labels _ _ fun label hl i hi => ?_
  obtain rfl := List.mem_singleton.1 hl
  obtain ⟨kind, raw, hraw, e, he, x, hx, hi⟩ := hi
  cases kind with
  | hide =>
    have hnone : (Label.extract markers "<a>\\v[1]>2</a>\\v[3]</h>\\v[4]".toList).condition?
        .hide = none := by decide
    rw [hnone] at hraw
    cases hraw
  | disable =>
    have hsome : (Label.extract markers "<a>\\v[1]>2</a>\\v[3]</h>\\v[4]".toList).condition?
        .disable = some "\\v[1]>2".toList := by decide
    obtain rfl := Option.some.inj (hsome.symm.trans hraw)
    have hdigit (c : Char) (h : '0' ≤ c ∧ c ≤ '9') : Text.IsDigits [c] := by
      intro c' hc
      rwa [List.mem_singleton.1 hc]
    have hleft : Derives .primary "\\v[1]".toList (.lookup (.number (literal false ['1'] []))) :=
      .lookup (.inl rfl) (List.cons_ne_nil '1' []) (hdigit '1' (by decide))
    have hright : Derives .primary "2".toList (.number (literal false ['2'] [])) :=
      .number (.whole (List.cons_ne_nil '2' []) (hdigit '2' (by decide)))
    have hblank : Text.isBlank [] = true := rfl
    have hd : Derives .relation "\\v[1]>2".toList _ :=
      .left (by decide : BinaryOp.greater ∈ _) rfl (hleft.loosen (by decide)) hblank hblank
        (hright.loosen (by decide))
    have hp : Expr.ofText "\\v[1]>2".toList = .ok _ :=
      Expr.ofText_of_sentence ⟨[], _, [], rfl, hblank, hblank, hd.loosen (by decide)⟩
    obtain rfl := Except.ok.inj (hp.symm.trans he)
    have hone : indexOf? (literal false ['1'] []) = some 1 := by decide +kernel
    simp only [Expr.indices, List.append_nil, List.mem_singleton, Expr.number.injEq] at hx
    rw [hx, hone] at hi
    obtain rfl := Option.some.inj hi
    rfl

end Resolution

end DialogGate
