import DialogGate.Expr.Parser
import DialogGate.Proofs.Text.Keyword

/-! # The two spellings of negation

A text may write some of its whole-word `not` as `!`, whichever ones they are (`respell`). No word
stands beside a keyword, and none stands beside the `!` in its place, so that every other keyword
stays one and no new one appears: spelling the rest comes to what spelling all of them at once does
(`spellNot_respell`), and the condition that is read is the same (`ofText_respell`). Spelling all of
them is one choice among the others (`respell_all`), hence doing it again changes nothing.
-/

namespace DialogGate

namespace Text

variable {before a rest : Text} {chosen : Nat → Bool}

/-- Writes the keywords at the chosen offsets as `!`, where `before` stands in front of the text and
counts for the offsets. -/
def respellAfter (chosen : Nat → Bool) (before : Text) : Text → Text
  | [] => []
  | 'n' :: 'o' :: 't' :: rest =>
    if isKeyword before ('n' :: 'o' :: 't' :: rest) && chosen before.length then
      '!' :: respellAfter chosen (before ++ ['n', 'o', 't']) rest
    else
      'n' :: respellAfter chosen (before ++ ['n']) ('o' :: 't' :: rest)
  | c :: rest => c :: respellAfter chosen (before ++ [c]) rest

/-- Writes the whole-word `not` at the chosen offsets as `!` and keeps all other text. -/
def respell (chosen : Nat → Bool) (text : Text) : Text := respellAfter chosen [] text

example : respell (· == 4) "not not nothing".toList = "not ! nothing".toList := by decide +kernel

/-! ## One keyword -/

theorem isWord_mark : isWord '!' = false := by decide +kernel

theorem isKeyword_iff :
    isKeyword before ('n' :: 'o' :: 't' :: rest) = true ↔
      endsInWord before = false ∧ startsInWord rest = false := by
  rw [isKeyword_not, Bool.not_eq_true', Bool.or_eq_false_iff]

/-- Behind a text that does not end in a word, spelling starts anew. -/
theorem spellNot_append_of_endsInWord (h : endsInWord before = false) (a : Text) :
    spellNot (before ++ a) = spellNot before ++ spellNot a := by
  rcases List.eq_nil_or_concat before with rfl | ⟨front, c, rfl⟩
  · rfl
  · rw [List.concat_eq_append] at h ⊢
    have hc : isWord c = false := (endsInWord_concat front c).symm.trans h
    have hfront : spellNot (front ++ [c]) = spellNot front ++ [c] :=
      spellNotAfter_append hc false front []
    rw [hfront, List.append_assoc, List.append_assoc]
    exact spellNotAfter_append hc false front a

theorem spellNot_mark (h : isKeyword before ('n' :: 'o' :: 't' :: rest) = true) :
    spellNot (before ++ '!' :: rest) = spellNot (before ++ 'n' :: 'o' :: 't' :: rest) := by
  obtain ⟨hbefore, hrest⟩ := isKeyword_iff.1 h
  have hspelled : spellNot ('!' :: rest) = '!' :: spellNot rest :=
    spellNotAfter_break isWord_mark _ _
  have hkeyword : spellNot ('n' :: 'o' :: 't' :: rest) = '!' :: spellNot rest :=
    spellNot_keyword hrest
  rw [spellNot_append_of_endsInWord hbefore, spellNot_append_of_endsInWord hbefore, hspelled,
    hkeyword]

/-! ## Some keywords -/

/-- No word begins where none began. -/
theorem startsInWord_respellAfter (chosen : Nat → Bool) (before : Text)
    (h : startsInWord a = false) : startsInWord (respellAfter chosen before a) = false := by
  fun_cases respellAfter chosen before a with
  | case1 => rfl
  | case2 rest hk => exact isWord_mark
  | case3 rest hk => exact h
  | case4 c rest hn => exact h

theorem spellNot_respellAfter (chosen : Nat → Bool) (before a : Text) :
    spellNot (before ++ respellAfter chosen before a) = spellNot (before ++ a) := by
  fun_induction respellAfter chosen before a with
  | case1 => rfl
  | case2 before rest hk ih =>
    -- with the rest respelled, the keyword is still one and may be written as `!`
    obtain ⟨hbefore, hrest⟩ := isKeyword_iff.1 (Bool.and_eq_true_iff.1 hk).1
    rw [spellNot_mark (isKeyword_iff.2 ⟨hbefore, startsInWord_respellAfter _ _ hrest⟩)]
    rw [List.append_assoc, List.append_assoc] at ih
    exact ih
  | case3 before rest hk ih =>
    rw [List.append_assoc, List.append_assoc] at ih
    exact ih
  | case4 before c rest hn ih =>
    rw [List.append_assoc, List.append_assoc] at ih
    exact ih

theorem spellNot_respell (chosen : Nat → Bool) (a : Text) :
    spellNot (respell chosen a) = spellNot a :=
  spellNot_respellAfter chosen [] a

/-! ## All keywords -/

theorem respellAfter_all {inWord : Bool} (h : endsInWord before = inWord) (a : Text) :
    respellAfter (fun _ => true) before a = spellNotAfter inWord a := by
  fun_induction spellNotAfter inWord a generalizing before with
  | case1 => rfl
  | case2 inWord rest hw ih =>
    have hk : ¬(isKeyword before ('n' :: 'o' :: 't' :: rest) && true) = true := by
      rw [isKeyword_not, h, hw]
      decide
    rw [respellAfter, if_neg hk, ih (endsInWord_concat before 'n')]
  | case3 inWord rest hw ih =>
    have hk : (isKeyword before ('n' :: 'o' :: 't' :: rest) && true) = true := by
      rw [isKeyword_not, h, Bool.eq_false_iff.2 hw]
      rfl
    have hend : endsInWord (before ++ ['n', 'o', 't']) = true := by
      have hlast : before ++ ['n', 'o', 't'] = before ++ ['n', 'o'] ++ ['t'] := by
        rw [List.append_assoc]
        rfl
      rw [hlast, endsInWord_concat]
      decide +kernel
    rw [respellAfter, if_pos hk, ih hend]
  | case4 inWord c rest hn ih => rw [respellAfter.eq_3 _ _ _ _ hn, ih (endsInWord_concat before c)]

theorem respell_all (a : Text) : respell (fun _ => true) a = spellNot a := by
  have hstart : endsInWord [] = false := rfl
  exact respellAfter_all hstart a

theorem spellNot_spellNot (a : Text) : spellNot (spellNot a) = spellNot a := by
  rw [← respell_all a, spellNot_respell, respell_all]

/-- Spelling a second time adds no `!`, so there is no keyword left. -/
theorem places_isKeyword_spellNot (a : Text) : places isKeyword [] (spellNot a) = 0 := by
  have hcount := count_spellNot (spellNot a)
  rw [spellNot_spellNot] at hcount
  omega

end Text

namespace Expr

/-- A condition reads the same, as a tree or as an error, whichever of its whole-word `not` are
written as `!`. All of them are before it is read: then none is left, and spelling them again
changes nothing. -/
theorem ofText_respell (raw : Text) :
    (∀ chosen, ofText (Text.respell chosen raw) = ofText raw) ∧
      Text.respell (fun _ => true) raw = Text.spellNot raw ∧
      Text.spellNot (Text.spellNot raw) = Text.spellNot raw ∧
      ∀ i, Text.isKeyword ((Text.spellNot raw).take i) ((Text.spellNot raw).drop i) = false := by
  refine ⟨fun chosen => ?_, Text.respell_all raw, Text.spellNot_spellNot raw, fun i => ?_⟩
  · rw [ofText, ofText, Text.spellNot_respell]
  · have hnone := Text.places_eq_zero_iff.1 (Text.places_isKeyword_spellNot raw)
    exact hnone _ _ (List.take_append_drop i _).symm

end Expr

end DialogGate
