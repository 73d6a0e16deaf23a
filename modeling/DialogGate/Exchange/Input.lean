import DialogGate.Json.Printer
import DialogGate.Text.Blank
import DialogGate.Variables

/-! # Tables and labels from JSON

A table of variables is an array, in which the position is the index and `null` sets nothing, or an
object whose keys are indices, or `null` for no variables at all. Labels are an array of strings.
The first entry that does not fit is reported; in an object, entries are visited in the order of
their keys, and of several keys for one index the last one counts.

* `Table.ofJson_null`: `null` sets nothing.
-/

namespace DialogGate

/-- Why a JSON value cannot be used. -/
inductive InputError where
  /-- The value is neither an array nor an object. -/
  | notATable (found : Json)
  | notAnIndex (key : Text)
  | notANumber (index : Nat) (found : Json)
  /-- The labels are not an array. -/
  | notAList
  | notALabel (found : Json)
  /-- An object without labels. -/
  | missingChoices
  /-- Neither an array of labels nor an object that holds one. -/
  | notAnInput

/-- The sentence for an author. -/
def InputError.message : InputError → Text
  | notATable found => "variables must be an array or an object, got ".toList ++ found.text
  | notAnIndex key => "variable key '".toList ++ key ++ "' is not an index".toList
  | notANumber index found =>
    "variable ".toList ++ Text.ofNat index ++ " must be a number, got ".toList ++ found.text
  | notAList => "choices must be an array of strings".toList
  | notALabel found => "choice must be a string, got ".toList ++ found.text
  | missingChoices => "missing \"choices\"".toList
  | notAnInput => "expected an array of choices or an object with \"choices\"".toList

/-- Takes a plus sign off the front. -/
def unplus : Text → Text
  | '+' :: rest => rest
  | text => text

/-- The index that a key denotes: ASCII digits, white space around them and a plus sign before them
being allowed. -/
def keyIndex? (key : Text) : Option Nat :=
  let digits := unplus (Text.trim key)
  if digits.isEmpty then none
  else (Text.natOf? digits).filter (· ≤ Store.lastIndex)

namespace Table

/-- The number of an entry. -/
def entry (index : Nat) : Json → Except InputError Binary64
  | .number n => .ok n.toBinary64
  | found => .error (.notANumber index found)

/-- Sets the variables of an array from a position onwards. -/
def addItems (t : Table) (index : Nat) : List Json → Except InputError Table
  | [] => .ok t
  | .null :: rest => t.addItems (index + 1) rest
  | item :: rest => do (t.insert index (← entry index item)).addItems (index + 1) rest

/-- Sets the variables of an object. -/
def addFields (t : Table) : Json.Fields → Except InputError Table
  | [] => .ok t
  | (key, item) :: rest =>
    match keyIndex? key with
    | some index => do (t.insert index (← entry index item)).addFields rest
    | none => .error (.notAnIndex key)

/-- The table that a JSON value stands for. -/
def ofJson : Json → Except InputError Table
  | .null => .ok empty
  | .array items => empty.addItems 0 items
  | .object fields => empty.addFields fields
  | found => .error (.notATable found)

theorem ofJson_null : ofJson .null = .ok empty := rfl

end Table

/-- The label that a JSON value stands for. -/
def labelOfJson : Json → Except InputError Text
  | .string t => .ok t
  | found => .error (.notALabel found)

/-- The labels that a JSON value stands for. -/
def labelsOfJson : Json → Except InputError (List Text)
  | .array items => items.mapM labelOfJson
  | _ => .error .notAList

/-- What is to be resolved: the labels, and the variables their conditions read. -/
structure Input where
  labels : List Text
  table : Table

/-- The input that a JSON value stands for: the labels alone, or an object with the labels under
`choices` and the variables, if there are any, under `variables`. -/
def Input.ofJson (j : Json) : Except InputError Input :=
  match j with
  | .array _ => do return ⟨← labelsOfJson j, Table.empty⟩
  | .object fields =>
    match Json.Fields.get? "choices".toList fields with
    | none => .error .missingChoices
    | some choices => do
      let table ← match Json.Fields.get? "variables".toList fields with
        | some v => Table.ofJson v
        | none => .ok Table.empty
      return ⟨← labelsOfJson choices, table⟩
  | _ => .error .notAnInput

end DialogGate
