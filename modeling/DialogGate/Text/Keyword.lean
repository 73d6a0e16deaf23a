import DialogGate.Text.Word

/-! # The keyword `not`

`not` is another spelling of the prefix operator `!` where it stands as a whole word: no word
character before it and none after it. `spellNot` writes every such keyword as `!` and keeps all
other text.

* `length_spellNot_le`: the result is never longer.
-/

namespace DialogGate.Text

/-- A word character stands at the front. -/
def startsInWord : Text → Bool
  | [] => false
  | c :: _ => isWord c

/-- Writes each whole-word `not` as `!`; `inWord` tells that a word character stands before. -/
def spellNotAfter (inWord : Bool) : Text → Text
  | [] => []
  | 'n' :: 'o' :: 't' :: rest =>
    if inWord || startsInWord rest then
      'n' :: spellNotAfter true ('o' :: 't' :: rest)
    else
      '!' :: spellNotAfter true rest
  | c :: rest => c :: spellNotAfter (isWord c) rest

/-- Writes each whole-word `not` as `!`. -/
def spellNot (text : Text) : Text := spellNotAfter false text

theorem length_spellNotAfter_le (inWord : Bool) (text : Text) :
    (spellNotAfter inWord text).length ≤ text.length := by
  fun_induction spellNotAfter inWord text with
  | case1 => simp
  | case2 inWord rest h ih => simpa using ih
  | case3 inWord rest h ih => simp only [List.length_cons]; omega
  | case4 inWord c rest _ ih => simpa using ih

theorem length_spellNot_le (text : Text) : (spellNot text).length ≤ text.length :=
  length_spellNotAfter_le false text

end DialogGate.Text
