import DialogGate.Text.Basic

/-! # Blank text

`isBlank` holds of a text of white space only, and `trim` takes the white space off both ends.
White space is the Unicode property White_Space: U+200B, U+FEFF and U+180E are not in it.

* `isSpace_of_isWhitespace`: the four plain blanks are white space.
* `length_trim_le`: trimming never makes a text longer.
-/

namespace DialogGate.Text

/-- The ranges of White_Space. -/
def spaceRanges : CharClass :=
  [(0x9, 0xD), (0x20, 0x20), (0x85, 0x85), (0xA0, 0xA0), (0x1680, 0x1680), (0x2000, 0x200A),
    (0x2028, 0x2029), (0x202F, 0x202F), (0x205F, 0x205F), (0x3000, 0x3000)]

/-- A white space character. -/
def isSpace (c : Char) : Bool := spaceRanges.has c.toNat

/-- Nothing but white space. -/
def isBlank (text : Text) : Bool := text.all isSpace

/-- Without the white space at the front. -/
def trimStart (text : Text) : Text := text.dropWhile isSpace

/-- Without the white space at the back. -/
def trimEnd (text : Text) : Text := (trimStart text.reverse).reverse

/-- Without the white space at both ends. -/
def trim (text : Text) : Text := trimEnd (trimStart text)

theorem isSpace_of_isWhitespace {c : Char} (h : c.isWhitespace = true) : isSpace c = true := by
  simp only [Char.isWhitespace, Bool.or_eq_true, decide_eq_true_eq] at h
  rcases h with ((rfl | rfl) | rfl) | rfl <;> rfl

theorem trimStart_isSuffix (text : Text) : trimStart text <:+ text :=
  List.dropWhile_suffix isSpace

theorem trimEnd_isPrefix (text : Text) : trimEnd text <+: text := by
  have h := trimStart_isSuffix text.reverse
  simpa [trimEnd] using List.reverse_prefix.2 h

theorem length_trimStart_le (text : Text) : (trimStart text).length ≤ text.length :=
  (trimStart_isSuffix text).length_le

theorem length_trimEnd_le (text : Text) : (trimEnd text).length ≤ text.length :=
  (trimEnd_isPrefix text).length_le

theorem length_trim_le (text : Text) : (trim text).length ≤ text.length :=
  Nat.le_trans (length_trimEnd_le _) (length_trimStart_le _)

end DialogGate.Text
