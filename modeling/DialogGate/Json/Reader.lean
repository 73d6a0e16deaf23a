import DialogGate.Json.Number

/-! # Reading JSON

`Json.ofText?` reads one value that makes up a whole text. The syntax is the strict one: no
comments, no trailing commas, no unescaped control characters, surrogate escapes in pairs only. At
most `nestingLimit` arrays and objects may lie within one another.

Each reader takes something off the front of a text and hands back the rest, which is shorter
(`Front.shorter`); this is why reading ends.
-/

namespace DialogGate.Json

/-- How many arrays and objects may lie within one another. -/
def nestingLimit : Nat := 127

/-- Something read off the front of a text, and the shorter rest. -/
structure Front (α : Type) (text : Text) where
  value : α
  rest : Text
  shorter : rest.length < text.length

/-- White space between the parts of a value. -/
def isBlank (c : Char) : Bool := c == ' ' || c == '\n' || c == '\t' || c == '\r'

/-- What follows the white space at the front. -/
def skipBlank (text : Text) : Text := text.dropWhile isBlank

theorem length_skipBlank_le (text : Text) : (skipBlank text).length ≤ text.length :=
  (List.dropWhile_suffix _).length_le

/-! ## Strings -/

/-- The value of a hexadecimal digit. -/
def hexValue? (c : Char) : Option Nat :=
  if 'a' ≤ c ∧ c ≤ 'f' then some (c.toNat - 'a'.toNat + 10)
  else if 'A' ≤ c ∧ c ≤ 'F' then some (c.toNat - 'A'.toNat + 10)
  else Text.digitValue? c

/-- The value of four hexadecimal digits. -/
def hexWord? (a b c d : Char) : Option Nat := do
  return (((← hexValue? a) * 16 + (← hexValue? b)) * 16 + (← hexValue? c)) * 16 + (← hexValue? d)

/-- The character that a letter behind a backslash stands for. -/
def escape? : Char → Option Char
  | '"' => some '"'
  | '\\' => some '\\'
  | '/' => some '/'
  | 'b' => some '\x08'
  | 'f' => some '\x0c'
  | 'n' => some '\n'
  | 'r' => some '\r'
  | 't' => some '\t'
  | _ => none

/-- The character that two surrogates stand for. -/
def paired? (lead trail : Nat) : Option Char :=
  if 0xD800 ≤ lead ∧ lead < 0xDC00 ∧ 0xDC00 ≤ trail ∧ trail < 0xE000 then
    some (Char.ofNat (0x10000 + (lead - 0xD800) * 0x400 + (trail - 0xDC00)))
  else none

/-- The character at the front of the inside of a string. -/
def stringChar? : (text : Text) → Option (Front Char text)
  | [] => none
  | '\\' :: 'u' :: a :: b :: c :: d :: rest => do
    let word ← hexWord? a b c d
    if word < 0xD800 ∨ 0xE000 ≤ word then
      return ⟨Char.ofNat word, rest, by simp only [List.length_cons]; omega⟩
    else
      match hr : rest with
      | '\\' :: 'u' :: a' :: b' :: c' :: d' :: rest' =>
        let found ← paired? word (← hexWord? a' b' c' d')
        return ⟨found, rest', by simp only [hr, List.length_cons]; omega⟩
      | _ => none
  | '\\' :: c :: rest => do
    return ⟨← escape? c, rest, by simp only [List.length_cons]; omega⟩
  | c :: rest =>
    if c.toNat < 0x20 ∨ c = '\\' then none else some ⟨c, rest, by simp⟩

/-- The inside of a string up to and with the quote that ends it. -/
def stringEnd? (text : Text) : Option (Front Text text) :=
  match text with
  | '"' :: rest => some ⟨[], rest, by simp⟩
  | text => do
    let first ← stringChar? text
    have := first.shorter
    let others ← stringEnd? first.rest
    return ⟨first.value :: others.value, others.rest, Nat.lt_trans others.shorter this⟩
termination_by text.length

/-! ## Values -/

namespace Front

/-- A result that starts further back in the text. -/
def widen {α : Type} {inner text : Text} (h : inner.length ≤ text.length) (f : Front α inner) :
    Front α text :=
  ⟨f.value, f.rest, Nat.lt_of_lt_of_le f.shorter h⟩

/-- One result behind another. -/
def followedBy {α β γ : Type} {text : Text} (first : Front α text) (g : α → β → γ)
    (second : Front β first.rest) : Front γ text :=
  ⟨g first.value second.value, second.rest, Nat.lt_trans second.shorter first.shorter⟩

/-- The same with another value. -/
def map {α β : Type} {text : Text} (g : α → β) (f : Front α text) : Front β text :=
  ⟨g f.value, f.rest, f.shorter⟩

end Front

/-- A given character behind white space. -/
def mark? (c : Char) (text : Text) : Option (Front Unit text) :=
  match h : skipBlank text with
  | [] => none
  | d :: rest =>
    if d = c then
      some ⟨(), rest, by
        have := length_skipBlank_le text
        simp only [h, List.length_cons] at this
        omega⟩
    else none

/-- A word or a number at the front of a text. -/
def scalar? (text : Text) : Option (Front Json text) :=
  match text with
  | 'n' :: 'u' :: 'l' :: 'l' :: rest =>
    some ⟨null, rest, by simp only [List.length_cons]; omega⟩
  | 't' :: 'r' :: 'u' :: 'e' :: rest =>
    some ⟨boolean true, rest, by simp only [List.length_cons]; omega⟩
  | 'f' :: 'a' :: 'l' :: 's' :: 'e' :: rest =>
    some ⟨boolean false, rest, by simp only [List.length_cons]; omega⟩
  | text =>
    match h : JsonNumber.atFront? text with
    | some (n, rest) => some ⟨number n, rest, JsonNumber.length_lt_of_atFront? h⟩
    | none => none

/-- A string behind white space. -/
def string? (text : Text) : Option (Front Text text) :=
  (mark? '"' text).bind fun quote =>
    (stringEnd? quote.rest).map (quote.followedBy fun _ t => t)

/-- A key and the colon behind it. -/
def key? (text : Text) : Option (Front Text text) :=
  (string? text).bind fun key => (mark? ':' key.rest).map (key.followedBy fun t _ => t)

/-- How a value starts. -/
inductive Start where
  /-- It is complete, and neither an array nor an object. -/
  | scalar (j : Json)
  /-- It is complete, an array or object without contents. -/
  | empty (j : Json)
  /-- The first item of an array follows. -/
  | items
  /-- The first field of an object follows. -/
  | fields

/-- An opening bracket or brace, with what closes it if nothing stands between them. -/
def opening? (openChar closeChar : Char) (empty : Json) (more : Start) (text : Text) :
    Option (Front Start text) :=
  (mark? openChar text).map fun first =>
    match mark? closeChar first.rest with
    | some last => first.followedBy (fun _ _ => .empty empty) last
    | none => first.map fun _ => more

/-- How the value at the front of a text starts. -/
def start? (text : Text) : Option (Front Start text) :=
  ((string? text).map fun f => f.map fun t => .scalar (string t)).or <|
    (opening? '[' ']' (array []) .items text).or <|
      (opening? '\x7b' '\x7d' (object []) .fields text).or <|
        (scalar? (skipBlank text)).map fun f =>
          (f.widen (length_skipBlank_le text)).map .scalar

/-- What stands behind an item: whether it is the last one. -/
def next? (closeChar : Char) (text : Text) : Option (Front Bool text) :=
  ((mark? closeChar text).map fun f => f.map fun _ => true).or
    ((mark? ',' text).map fun f => f.map fun _ => false)

mutual

/-- A value at the front of a text; `room` is how many arrays and objects may still be opened. -/
def value? (room : Nat) (text : Text) : Option (Front Json text) :=
  (start? text).bind fun first =>
    match first.value with
    | .scalar j => some (first.map fun _ => j)
    | .empty j => if room = 0 then none else some (first.map fun _ => j)
    | .items =>
      if room = 0 then none
      else (items? (room - 1) first.rest).map (first.followedBy fun _ js => array js)
    | .fields =>
      if room = 0 then none
      else (fields? (room - 1) first.rest).map (first.followedBy fun _ fs => ofFields fs)
termination_by (text.length, 0)
decreasing_by all_goals exact Prod.Lex.left _ _ first.shorter

/-- The items of an array, separated by commas, up to and with the bracket that ends it. -/
def items? (room : Nat) (text : Text) : Option (Front (List Json) text) :=
  (value? room text).bind fun item =>
    (next? ']' item.rest).bind fun next =>
      if next.value then some (item.followedBy (fun j _ => [j]) next)
      else
        (items? room next.rest).map fun others =>
          item.followedBy (fun j js => j :: js) (next.followedBy (fun _ js => js) others)
termination_by (text.length, 1)
decreasing_by
  · exact Prod.Lex.right _ Nat.zero_lt_one
  · exact Prod.Lex.left _ _ (Nat.lt_trans next.shorter item.shorter)

/-- The fields of an object, separated by commas, up to and with the brace that ends it. -/
def fields? (room : Nat) (text : Text) : Option (Front Fields text) :=
  (key? text).bind fun key =>
    (value? room key.rest).bind fun item =>
      (next? '\x7d' item.rest).bind fun next =>
        if next.value then
          some (key.followedBy (fun k j => [(k, j)]) (item.followedBy (fun j _ => j) next))
        else
          (fields? room next.rest).map fun others =>
            key.followedBy (fun k jfs => (k, jfs.1) :: jfs.2)
              (item.followedBy Prod.mk (next.followedBy (fun _ fs => fs) others))
termination_by (text.length, 1)
decreasing_by
  · exact Prod.Lex.left _ _ key.shorter
  · exact Prod.Lex.left _ _ (Nat.lt_trans next.shorter (Nat.lt_trans item.shorter key.shorter))

end

/-- Reads a text that holds one value and nothing else. -/
def ofText? (text : Text) : Option Json :=
  (value? nestingLimit text).bind fun found =>
    if skipBlank found.rest = [] then some found.value else none

end DialogGate.Json
