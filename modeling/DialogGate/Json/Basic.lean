import DialogGate.Text.Basic
import DialogGate.Binary64.Decimal

/-! # JSON values

Values as they are exchanged with other programs. A number written without fraction and exponent
stays a whole number if it fits a 64-bit word; all others are doubles. The fields of an object are
kept in ascending order of their keys, each key once.

* `Fields.get?_put_self`, `Fields.get?_put_of_ne`: a field that is put in replaces the one with its
  key and no other.
-/

namespace DialogGate

/-- A number in an exchange. -/
inductive JsonNumber where
  | whole (n : Int)
  | double (x : Binary64)

/-- The double nearest to a number. -/
def JsonNumber.toBinary64 : JsonNumber → Binary64
  | whole n => .ofInt n
  | double x => x

/-- A value in an exchange. -/
inductive Json where
  | null
  | boolean (b : Bool)
  | number (n : JsonNumber)
  | string (t : Text)
  | array (items : List Json)
  | object (fields : List (Text × Json))

namespace Text

/-- The order of keys: by the first character that differs, a shorter text before a longer one. -/
def before : Text → Text → Bool
  | [], [] => false
  | [], _ :: _ => true
  | _ :: _, [] => false
  | a :: s, b :: t => if a = b then before s t else a.toNat < b.toNat

end Text

namespace Json

/-- The fields of an object, in ascending order of their keys. -/
abbrev Fields := List (Text × Json)

/-- Puts a field into its place; it replaces the one with the same key. -/
def Fields.put (key : Text) (value : Json) : Fields → Fields
  | [] => [(key, value)]
  | (k, v) :: rest =>
    if key = k then (key, value) :: rest
    else if Text.before key k then (key, value) :: (k, v) :: rest
    else (k, v) :: Fields.put key value rest

/-- The value of a field. -/
def Fields.get? (key : Text) : Fields → Option Json
  | [] => none
  | (k, v) :: rest => if key = k then some v else Fields.get? key rest

/-- The object with the given fields; of several with one key the last one counts. -/
def ofFields (fields : Fields) : Json :=
  object (fields.foldl (fun sorted (key, value) => Fields.put key value sorted) [])

theorem Fields.get?_cons_self (key : Text) (value : Json) (rest : Fields) :
    Fields.get? key ((key, value) :: rest) = some value := by
  rw [Fields.get?, if_pos rfl]

theorem Fields.get?_cons_of_ne {key other : Text} (h : key ≠ other) (value : Json)
    (rest : Fields) : Fields.get? key ((other, value) :: rest) = Fields.get? key rest := by
  rw [Fields.get?, if_neg h]

theorem Fields.get?_put_self (key : Text) (value : Json) (fields : Fields) :
    Fields.get? key (Fields.put key value fields) = some value := by
  fun_induction Fields.put key value fields with
  | case1 => simp [Fields.get?]
  | case2 => simp [Fields.get?]
  | case3 => simp [Fields.get?]
  | case4 k v rest h _ ih => rw [Fields.get?, if_neg h, ih]

theorem Fields.get?_put_of_ne {key other : Text} (h : other ≠ key) (value : Json)
    (fields : Fields) :
    Fields.get? other (Fields.put key value fields) = Fields.get? other fields := by
  fun_induction Fields.put key value fields with
  | case1 => simp [Fields.get?, h]
  | case2 => simp [Fields.get?, h]
  | case3 => simp [Fields.get?, h]
  | case4 k v rest _ _ ih => rw [Fields.get?, Fields.get?, ih]

end Json

end DialogGate
