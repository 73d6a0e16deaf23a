import DialogGate.Choice
import DialogGate.Expr.Cutting
import DialogGate.Log.Basic
import DialogGate.Text.Quoted

/-! # What reading and resolving tell

The log of each operation, beside the operation itself: the cuts made while a condition is read, the
region that is ignored in a label, the conditions that fail, and what became of each choice.
-/

namespace DialogGate

/-- One record for each cut. -/
def Expr.log (raw : Text) : List Log.Record :=
  (cuts raw).map fun (text, o) =>
    ⟨.trace, .parser,
      "splitting ".toList ++ ParseError.ticked text ++ " at ".toList ++
        ParseError.ticked o.operator.symbol ++ " (offset ".toList ++ Text.ofNat o.offset ++ [')']⟩

/-- The region that is ignored because it overlaps another one. -/
def Label.log (markers : Markers) (label : Text) : List Log.Record :=
  (ignored? (regions markers label)).toList.map fun region =>
    ⟨.debug, .tags,
      "ignoring ".toList ++ region.kind.name ++ " region nested in another region: ".toList ++
        Text.quoted label⟩

/-- A condition that counts as false because it fails. -/
def Diagnostic.record (d : Diagnostic) : Log.Record :=
  ⟨.warn, .choices,
    "choice ".toList ++ Text.ofNat d.index ++ ": ".toList ++ d.kind.name ++ " condition ".toList ++
      ParseError.ticked d.condition ++ " treated as false: ".toList ++ d.error.message⟩

/-- What became of a choice. -/
def Choice.record (c : Choice) : Log.Record :=
  ⟨.debug, .choices,
    "choice ".toList ++ Text.ofNat c.index ++ ": ".toList ++ Text.quoted c.text ++
      " enabled=".toList ++ Expr.booleanText c.enabled ++
      " hidden=".toList ++ Expr.booleanText c.hidden⟩

/-- The condition of a kind: how it is read, and its failure. -/
def Extracted.log (e : Extracted) (store : Store) (index : Nat) (kind : Kind) : List Log.Record :=
  (e.condition? kind).toList.flatMap Expr.log ++
    (e.check store index kind []).2.map Diagnostic.record

/-- Everything about one label, in the order in which it is done. -/
def Choice.log (markers : Markers) (store : Store) (index : Nat) (label : Text) :
    List Log.Record :=
  let e := Label.extract markers label
  Label.log markers label ++ e.log store index .disable ++ e.log store index .hide ++
    [(resolve markers store index label []).1.record]

/-- Everything about a list of labels. -/
def Resolution.log (markers : Markers) (store : Store) (labels : List Text) : List Log.Record :=
  (labels.mapIdx (Choice.log markers store)).flatten

end DialogGate
