import DialogGate.Text.Blank

/-! # Trimming as a decomposition

A text is its trimmed part between two blank parts (`exists_trim`), and a text with no white space
at either end (`Trimmed`) is what trimming leaves of it, whatever blank parts are put around it
(`trim_enclosed`). Trimming always ends in such a text (`trimmed_trim`).
-/

namespace DialogGate.Text

/-- No white space at the front and none at the back. -/
structure Trimmed (text : Text) : Prop where
  front : ∀ c, text.head? = some c → isSpace c = false
  back : ∀ c, text.getLast? = some c → isSpace c = false

theorem isBlank_iff {text : Text} : isBlank text = true ↔ ∀ c ∈ text, isSpace c = true :=
  List.all_eq_true

theorem isBlank_append {a b : Text} :
    isBlank (a ++ b) = true ↔ isBlank a = true ∧ isBlank b = true := by
  simp only [isBlank, List.all_append, Bool.and_eq_true]

theorem isBlank_reverse {text : Text} : isBlank text.reverse = isBlank text := by
  simp [isBlank]

/-- A text with no white space at the front is not blank, unless it is empty. -/
theorem Trimmed.not_isBlank {text : Text} (h : Trimmed text) (hne : text ≠ []) :
    ¬isBlank text = true := by
  obtain ⟨c, rest, rfl⟩ := List.exists_cons_of_ne_nil hne
  intro hb
  have hc := isBlank_iff.1 hb c (.head _)
  rw [h.front c rfl] at hc
  cases hc

theorem Trimmed.append_blank {a post : Text} (h : Trimmed (a ++ post)) (hb : isBlank post = true) :
    post = [] := by
  cases hl : post.getLast? with
  | none => exact List.getLast?_eq_none_iff.1 hl
  | some c =>
    have hs := isBlank_iff.1 hb c (List.mem_of_getLast? hl)
    rw [h.back c (by rw [List.getLast?_append, hl, Option.some_or])] at hs
    cases hs

theorem Trimmed.blank_append {pre a : Text} (h : Trimmed (pre ++ a)) (hb : isBlank pre = true) :
    pre = [] := by
  cases pre with
  | nil => rfl
  | cons c pre =>
    have hs := isBlank_iff.1 hb c (.head _)
    rw [h.front c rfl] at hs
    cases hs

/-! ## One end -/

theorem trimStart_append {pre : Text} (h : isBlank pre = true) (text : Text) :
    trimStart (pre ++ text) = trimStart text :=
  List.dropWhile_append_of_pos (isBlank_iff.1 h)

theorem trimStart_eq_self {text : Text} (h : ∀ c, text.head? = some c → isSpace c = false) :
    trimStart text = text := by
  cases text with
  | nil => rfl
  | cons c rest => exact List.dropWhile_cons_of_neg (by simp [h c rfl])

theorem exists_trimStart (text : Text) :
    ∃ pre, isBlank pre = true ∧ text = pre ++ trimStart text :=
  ⟨text.takeWhile isSpace, List.all_takeWhile, List.takeWhile_append_dropWhile.symm⟩

theorem head?_trimStart {text : Text} {c : Char} (h : (trimStart text).head? = some c) :
    isSpace c = false := by
  have hne : text.dropWhile isSpace ≠ [] := by
    intro hn
    rw [trimStart, hn] at h
    cases h
  have hc := List.head_dropWhile_not isSpace hne
  rw [trimStart, List.head?_eq_some_head hne, Option.some.injEq] at h
  rw [← h, hc]

theorem exists_trimEnd (text : Text) :
    ∃ post, isBlank post = true ∧ text = trimEnd text ++ post := by
  obtain ⟨pre, hb, he⟩ := exists_trimStart text.reverse
  refine ⟨pre.reverse, by rw [isBlank_reverse, hb], ?_⟩
  have := congrArg List.reverse he
  rwa [List.reverse_reverse, List.reverse_append] at this

/-! ## Both ends -/

theorem trim_eq_self {text : Text} (h : Trimmed text) : trim text = text := by
  have hb : trimStart text.reverse = text.reverse :=
    trimStart_eq_self fun c hc => h.back c (by rwa [List.head?_reverse] at hc)
  rw [trim, trimStart_eq_self h.front, trimEnd, hb, List.reverse_reverse]

theorem trim_enclosed {pre text post : Text} (hpre : isBlank pre = true)
    (hpost : isBlank post = true) (h : Trimmed text) : trim (pre ++ text ++ post) = text := by
  rw [trim, List.append_assoc, trimStart_append hpre]
  cases text with
  | nil =>
    have : trimStart post = [] := by
      simpa [trimStart] using trimStart_append hpost []
    rw [List.nil_append, this]
    rfl
  | cons c rest =>
    have hb : trimStart (c :: rest ++ post) = c :: rest ++ post :=
      trimStart_eq_self fun d hd => h.front d hd
    have hr : trimStart (c :: rest).reverse = (c :: rest).reverse :=
      trimStart_eq_self fun d hd => h.back d (by rwa [List.head?_reverse] at hd)
    rw [hb, trimEnd, List.reverse_append,
      trimStart_append (by rw [isBlank_reverse, hpost]), hr, List.reverse_reverse]

theorem exists_trim (text : Text) :
    ∃ pre post, isBlank pre = true ∧ isBlank post = true ∧ text = pre ++ trim text ++ post := by
  obtain ⟨pre, hpre, h1⟩ := exists_trimStart text
  obtain ⟨post, hpost, h2⟩ := exists_trimEnd (trimStart text)
  exact ⟨pre, post, hpre, hpost, by rw [List.append_assoc, trim, ← h2, ← h1]⟩

theorem trimmed_trim (text : Text) : Trimmed (trim text) := by
  refine ⟨fun c hc => ?_, fun c hc => ?_⟩
  · -- the front of a prefix of `trimStart text` is the front of `trimStart text`
    obtain ⟨post, -, h⟩ := exists_trimEnd (trimStart text)
    have hc' : (trimStart text).head? = some c := by
      rw [h, ← trim, List.head?_append, hc]
      rfl
    exact head?_trimStart hc'
  · rw [trim, trimEnd, List.getLast?_reverse] at hc
    exact head?_trimStart hc

/-- At the front of a trimmed text, white space stands only behind. -/
theorem Trimmed.exists_left {a b : Text} (h : Trimmed (a ++ b)) :
    ∃ post, isBlank post = true ∧ a = trim a ++ post := by
  obtain ⟨pre, post, hpre, hpost, ha⟩ := exists_trim a
  rw [ha, List.append_assoc, List.append_assoc] at h
  rw [h.blank_append hpre, List.nil_append] at ha
  exact ⟨post, hpost, ha⟩

/-- At the back of a trimmed text, white space stands only before. -/
theorem Trimmed.exists_right {a b : Text} (h : Trimmed (a ++ b)) :
    ∃ pre, isBlank pre = true ∧ b = pre ++ trim b := by
  obtain ⟨pre, post, hpre, hpost, hb⟩ := exists_trim b
  rw [hb, ← List.append_assoc] at h
  rw [h.append_blank hpost, List.append_nil] at hb
  exact ⟨pre, hpre, hb⟩

end DialogGate.Text
