import DialogGate.Proofs.Text.Numeral
import DialogGate.Proofs.Text.Trim
import DialogGate.Text.Keyword

/-! # The keyword `not` in a text

A piece of text is *delimited* if the keyword is spelled in it alone, whatever stands behind
(`Delimited`). White space and other text without words is, so is any text in parentheses
(`delimited_enclosed`), and so are texts put together from delimited ones (`Delimited.append`).

`places` counts the places of a text by what stands before and behind them, and by it the keywords,
the negations and the inequalities that are written in a text. Each keyword becomes one `!` more
(`count_spellNot`), and one inequality more if `=` stands directly behind it
(`inequalities_spellNot`).
-/

namespace DialogGate.Text

variable {c : Char} {a b rest : Text}

/-- No range of white space holds a word character. -/
theorem isWord_of_isSpace (h : isSpace c = true) : isWord c = false :=
  CharClass.has_eq_false_of_apart (by decide +kernel) h

/-! ## The keyword in pieces of text -/

/-- A text without an `o` has no keyword. -/
theorem spellNotAfter_eq_self {inWord : Bool} (h : 'o' ∉ a) : spellNotAfter inWord a = a := by
  fun_induction spellNotAfter inWord a with
  | case1 => rfl
  | case2 inWord rest => exact absurd (.tail _ (.head _)) h
  | case3 inWord rest => exact absurd (.tail _ (.head _)) h
  | case4 inWord c rest _ ih => rw [ih fun hm => h (.tail _ hm)]

theorem isBlank_spellNotAfter (inWord : Bool) (a : Text) :
    isBlank (spellNotAfter inWord a) = isBlank a := by
  fun_induction spellNotAfter inWord a with
  | case1 => rfl
  | case2 inWord rest h ih => rfl
  | case3 inWord rest h ih => rfl
  | case4 inWord c rest hn ih =>
    simp only [isBlank, List.all_cons] at ih ⊢
    rw [ih]

/-- A character that is part of no word. -/
theorem spellNotAfter_break (hc : isWord c = false) (inWord : Bool) (rest : Text) :
    spellNotAfter inWord (c :: rest) = c :: spellNotAfter false rest := by
  rw [spellNotAfter, hc]
  rintro tail rfl
  exact absurd hc (by decide +kernel)

theorem startsInWord_append (hc : isWord c = false) (a rest : Text) :
    startsInWord (a ++ c :: rest) = startsInWord a := by
  cases a with
  | nil => exact hc
  | cons d a => rfl

/-- Up to a character that is part of no word, a text is spelled as if it ended there. -/
theorem spellNotAfter_append (hc : isWord c = false) (inWord : Bool) (a rest : Text) :
    spellNotAfter inWord (a ++ c :: rest) =
      spellNotAfter inWord a ++ c :: spellNotAfter false rest := by
  fun_induction spellNotAfter inWord a with
  | case1 inWord => exact spellNotAfter_break hc inWord rest
  | case2 inWord a h ih =>
    have hw : (inWord || startsInWord (a ++ c :: rest)) = true := by
      rwa [startsInWord_append hc]
    simp only [List.cons_append] at ih ⊢
    rw [spellNotAfter, if_pos hw, ih]
  | case3 inWord a h ih =>
    have hw : ¬(inWord || startsInWord (a ++ c :: rest)) = true := by
      rwa [startsInWord_append hc]
    simp only [List.cons_append] at ih ⊢
    rw [spellNotAfter, if_neg hw, ih]
  | case4 inWord d a hd ih =>
    rw [List.cons_append, spellNotAfter, ih, List.cons_append]
    -- no keyword begins before the character and ends behind it
    intro tail hn he
    match a with
    | [] =>
      obtain rfl := (List.cons.inj he).1
      exact absurd hc (by decide +kernel)
    | [e] =>
      obtain rfl := (List.cons.inj (List.cons.inj he).2).1
      exact absurd hc (by decide +kernel)
    | e :: f :: a =>
      simp only [List.cons_append, List.cons.injEq] at he
      exact hd a hn (by rw [he.1, he.2.1])

/-- A piece of text is spelled in one way, whatever stands behind it, and what stands behind is
spelled as if nothing stood before. -/
def Delimited (raw spelled : Text) : Prop :=
  ∀ rest, spellNot (raw ++ rest) = spelled ++ spellNot rest

theorem Delimited.spellNot_eq (h : Delimited a b) : spellNot a = b := by
  have hnil := h []
  rwa [List.append_nil, show spellNot [] = [] from rfl, List.append_nil] at hnil

theorem Delimited.append {a' b' : Text} (ha : Delimited a a') (hb : Delimited b b') :
    Delimited (a ++ b) (a' ++ b') := by
  intro rest
  rw [List.append_assoc, ha, hb, List.append_assoc]

/-- Text without words. -/
theorem delimited_of_breaks (h : a.any isWord = false) : Delimited a a := by
  intro rest
  induction a with
  | nil => rfl
  | cons c a ih =>
    rw [List.any_cons, Bool.or_eq_false_iff] at h
    rw [List.cons_append, spellNot, spellNotAfter_break h.1, List.cons_append]
    exact congrArg (c :: ·) (ih h.2)

theorem delimited_of_isBlank (h : isBlank a = true) : Delimited a a := by
  refine delimited_of_breaks (List.any_eq_false.2 fun c hc => ?_)
  rw [isWord_of_isSpace (isBlank_iff.1 h c hc)]
  exact Bool.false_ne_true

theorem spellNot_padded {pre post : Text} (hpre : isBlank pre = true) (hpost : isBlank post = true)
    (a : Text) : spellNot (pre ++ a ++ post) = pre ++ spellNot a ++ post := by
  rw [List.append_assoc, delimited_of_isBlank hpre, List.append_assoc]
  cases post with
  | nil => rw [List.append_nil, List.append_nil]
  | cons c post =>
    have hc : isWord c = false := isWord_of_isSpace (isBlank_iff.1 hpost c (.head _))
    have hrest : isBlank post = true := (isBlank_append (a := [c])).1 hpost |>.2
    rw [spellNot, spellNotAfter_append hc]
    exact congrArg (fun rest => pre ++ (spellNot a ++ c :: rest))
      (delimited_of_isBlank hrest).spellNot_eq

/-- Text in parentheses. -/
theorem delimited_enclosed (a : Text) :
    Delimited ('(' :: a ++ [')']) ('(' :: spellNot a ++ [')']) := by
  intro rest
  have hopen : isWord '(' = false := by decide +kernel
  have hclose : isWord ')' = false := by decide +kernel
  rw [List.append_assoc, List.singleton_append, List.cons_append, spellNot,
    spellNotAfter_break hopen, spellNotAfter_append hclose, List.append_assoc]
  rfl

/-- The keyword before something that is no word. -/
theorem spellNot_keyword (h : startsInWord rest = false) :
    spellNot ("not".toList ++ rest) = '!' :: spellNot rest := by
  have hw : ¬(false || startsInWord rest) = true := by rw [h]; decide
  show spellNotAfter false ('n' :: 'o' :: 't' :: rest) = _
  rw [spellNotAfter, if_neg hw]
  cases rest with
  | nil => rfl
  | cons c rest => rw [spellNotAfter_break h, spellNot, spellNotAfter_break h]

/-! ## Places of a text -/

/-- At how many places of the text, `before` standing in front of it, what stands before the place
and what stands behind it satisfy `p`. -/
def places (p : Text → Text → Bool) (before text : Text) : Nat :=
  (List.range (text.length + 1)).countP fun i => p (before ++ text.take i) (text.drop i)

/-- A word character stands at the back. -/
def endsInWord (a : Text) : Bool := startsInWord a.reverse

/-- A whole-word `not`. -/
def isKeyword (before behind : Text) : Bool :=
  "not".toList.isPrefixOf behind && !endsInWord before && !startsInWord (behind.drop 3)

/-- A whole-word `not` directly before an equals sign. -/
def isFusedKeyword (before behind : Text) : Bool :=
  isKeyword before behind && "=".toList.isPrefixOf (behind.drop 3)

/-- An exclamation mark without an equals sign behind it. -/
def isLoneMark (_before behind : Text) : Bool :=
  "!".toList.isPrefixOf behind && !"=".toList.isPrefixOf (behind.drop 1)

/-- An exclamation mark with an equals sign behind it. -/
def isInequality (_before behind : Text) : Bool := "!=".toList.isPrefixOf behind

section
variable (p : Text → Text → Bool) (before : Text)

theorem places_nil : places p before [] = (p before []).toNat := by
  rw [places, List.length_nil, List.range_one, List.countP_singleton, List.take_nil,
    List.drop_nil, List.append_nil]
  cases p before [] <;> rfl

theorem places_cons (c : Char) (a : Text) :
    places p before (c :: a) = (p before (c :: a)).toNat + places p (before ++ [c]) a := by
  rw [places, List.length_cons, List.range_succ_eq_map, List.countP_cons, List.countP_map,
    List.take_zero, List.drop_zero, List.append_nil, Nat.add_comm, places]
  congr 1
  · cases p before (c :: a) <;> rfl
  · refine List.countP_congr fun i _ => ?_
    rw [Function.comp_apply, List.take_succ_cons, List.drop_succ_cons, List.append_assoc,
      List.singleton_append]

end

/-- The text has no such place. -/
theorem places_eq_zero_iff {p : Text → Text → Bool} {text : Text} :
    places p [] text = 0 ↔ ∀ before behind, text = before ++ behind → p before behind = false := by
  rw [places, List.countP_eq_zero]
  constructor
  · rintro h before behind rfl
    have hm : before.length ∈ List.range ((before ++ behind).length + 1) := by
      rw [List.mem_range, List.length_append]
      omega
    have hp := h before.length hm
    rw [List.nil_append, List.take_left, List.drop_left] at hp
    exact Bool.eq_false_iff.2 hp
  · intro h i _
    rw [List.nil_append, h _ _ (List.take_append_drop i text).symm]
    exact Bool.false_ne_true

theorem endsInWord_concat (before : Text) (c : Char) : endsInWord (before ++ [c]) = isWord c := by
  rw [endsInWord, List.reverse_append]
  rfl

theorem isKeyword_not (before rest : Text) :
    isKeyword before ('n' :: 'o' :: 't' :: rest) = !(endsInWord before || startsInWord rest) := by
  rw [Bool.not_or]
  rfl

theorem isKeyword_eq_false {before behind : Text} (h : ∀ rest, behind ≠ 'n' :: 'o' :: 't' :: rest) :
    isKeyword before behind = false := by
  have hn : "not".toList.isPrefixOf behind = false := by
    refine Bool.eq_false_iff.2 fun hp => ?_
    obtain ⟨rest, hr⟩ := List.isPrefixOf_iff_prefix.1 hp
    exact h rest hr.symm
  rw [isKeyword, hn]
  rfl

theorem isFusedKeyword_not (before rest : Text) :
    isFusedKeyword before ('n' :: 'o' :: 't' :: rest) =
      (isKeyword before ('n' :: 'o' :: 't' :: rest) && "=".toList.isPrefixOf rest) := rfl

theorem isFusedKeyword_eq_false {before behind : Text} (h : isKeyword before behind = false) :
    isFusedKeyword before behind = false := by
  rw [isFusedKeyword, h, Bool.false_and]

/-- No keyword begins inside a keyword. -/
theorem places_keyword {p : Text → Text → Bool}
    (h : ∀ before behind, isKeyword before behind = false → p before behind = false)
    (before rest : Text) :
    places p before ('n' :: 'o' :: 't' :: rest) =
      (p before ('n' :: 'o' :: 't' :: rest)).toNat +
        places p (before ++ ['n'] ++ ['o'] ++ ['t']) rest := by
  have ho : isKeyword (before ++ ['n']) ('o' :: 't' :: rest) = false :=
    isKeyword_eq_false fun _ => by simp
  have ht : isKeyword (before ++ ['n'] ++ ['o']) ('t' :: rest) = false :=
    isKeyword_eq_false fun _ => by simp
  rw [places_cons, places_cons, places_cons, h _ _ ho, h _ _ ht, Bool.toNat_false, Nat.zero_add,
    Nat.zero_add]

theorem isInequality_cons (before : Text) (c : Char) (rest : Text) :
    isInequality before (c :: rest) = (c == '!' && "=".toList.isPrefixOf rest) := by
  rw [BEq.comm]
  rfl

theorem isLoneMark_cons (before : Text) (c : Char) (rest : Text) :
    isLoneMark before (c :: rest) = (c == '!' && !"=".toList.isPrefixOf rest) := by
  have hc : "!".toList.isPrefixOf (c :: rest) = (c == '!') := by
    rw [BEq.comm, ← Bool.and_true ('!' == c)]
    rfl
  rw [isLoneMark, hc]
  rfl

/-! ## Keywords spelled -/

/-- Nothing is spelled as an equals sign but an equals sign. -/
theorem isPrefixOf_spellNotAfter (inWord : Bool) (a : Text) :
    "=".toList.isPrefixOf (spellNotAfter inWord a) = "=".toList.isPrefixOf a := by
  fun_cases spellNotAfter inWord a with
  | case1 => rfl
  | case2 rest _ => rfl
  | case3 rest _ => rfl
  | case4 c rest _ => rfl

/-- Every keyword becomes an exclamation mark. -/
theorem count_spellNotAfter {inWord : Bool} {before : Text} (h : endsInWord before = inWord)
    (a : Text) :
    (spellNotAfter inWord a).count '!' = a.count '!' + places isKeyword before a := by
  fun_induction spellNotAfter inWord a generalizing before with
  | case1 => rw [places_nil]; rfl
  | case2 inWord rest hw ih =>
    have hk : isKeyword before ('n' :: 'o' :: 't' :: rest) = false := by
      rw [isKeyword_not, h, hw, Bool.not_true]
    rw [places_cons, hk, List.count_cons_of_ne (by decide), List.count_cons_of_ne (by decide),
      ih (endsInWord_concat before 'n'), Bool.toNat_false, Nat.zero_add]
  | case3 inWord rest hw ih =>
    have hk : isKeyword before ('n' :: 'o' :: 't' :: rest) = true := by
      rw [isKeyword_not, h, Bool.eq_false_iff.2 hw, Bool.not_false]
    rw [places_keyword fun _ _ h => h, hk, List.count_cons_self,
      ih (endsInWord_concat (before ++ ['n'] ++ ['o']) 't'), List.count_cons_of_ne (by decide),
      List.count_cons_of_ne (by decide), List.count_cons_of_ne (by decide), Bool.toNat_true]
    omega
  | case4 inWord c rest hn ih =>
    have hk : isKeyword before (c :: rest) = false :=
      isKeyword_eq_false fun tail he => hn tail (List.cons.inj he).1 (List.cons.inj he).2
    rw [places_cons, hk, List.count_cons, List.count_cons, ih (endsInWord_concat before c),
      Bool.toNat_false]
    omega

/-- A keyword before an equals sign becomes an inequality. -/
theorem inequalities_spellNotAfter {inWord : Bool} {before : Text} (h : endsInWord before = inWord)
    (before' a : Text) :
    places isInequality before' (spellNotAfter inWord a) =
      places isInequality before a + places isFusedKeyword before a := by
  fun_induction spellNotAfter inWord a generalizing before before' with
  | case1 =>
    rw [places_nil, places_nil, places_nil]
    rfl
  | case2 inWord rest hw ih =>
    have hk : isFusedKeyword before ('n' :: 'o' :: 't' :: rest) = false := by
      rw [isFusedKeyword_not, isKeyword_not, h, hw]
      rfl
    rw [places_cons, places_cons, places_cons isFusedKeyword, hk, isInequality_cons,
      isInequality_cons, ih (endsInWord_concat before 'n')]
    simp
  | case3 inWord rest hw ih =>
    have hk : isKeyword before ('n' :: 'o' :: 't' :: rest) = true := by
      rw [isKeyword_not, h, Bool.eq_false_iff.2 hw, Bool.not_false]
    rw [places_cons, isInequality_cons, isPrefixOf_spellNotAfter,
      ih (endsInWord_concat (before ++ ['n'] ++ ['o']) 't'),
      places_keyword fun _ _ => isFusedKeyword_eq_false, isFusedKeyword_not, hk,
      places_cons isInequality before, places_cons isInequality, places_cons isInequality,
      isInequality_cons, isInequality_cons, isInequality_cons]
    simp
    omega
  | case4 inWord c rest hn ih =>
    have hk : isFusedKeyword before (c :: rest) = false :=
      isFusedKeyword_eq_false (isKeyword_eq_false fun tail he =>
        hn tail (List.cons.inj he).1 (List.cons.inj he).2)
    rw [places_cons, places_cons isInequality before, places_cons isFusedKeyword, hk,
      isInequality_cons, isInequality_cons, isPrefixOf_spellNotAfter,
      ih (endsInWord_concat before c), Bool.toNat_false]
    omega

/-- An exclamation mark is one of an inequality, or it stands alone. -/
theorem count_mark (before a : Text) :
    a.count '!' = places isLoneMark before a + places isInequality before a := by
  induction a generalizing before with
  | nil =>
    rw [places_nil, places_nil]
    rfl
  | cons c a ih =>
    rw [List.count_cons, ih (before ++ [c]), places_cons isLoneMark, places_cons isInequality,
      isLoneMark_cons, isInequality_cons]
    cases c == '!' <;> cases "=".toList.isPrefixOf a <;> simp <;> omega

theorem count_spellNot (a : Text) :
    (spellNot a).count '!' = a.count '!' + places isKeyword [] a := by
  have hstart : endsInWord [] = false := rfl
  exact count_spellNotAfter hstart a

theorem inequalities_spellNot (a : Text) :
    places isInequality [] (spellNot a) =
      places isInequality [] a + places isFusedKeyword [] a := by
  have hstart : endsInWord [] = false := rfl
  exact inequalities_spellNotAfter hstart [] a

end DialogGate.Text
