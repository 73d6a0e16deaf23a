import DialogGate.Text.Basic

/-! # The first place of a marker

`FirstAt` says where a marker stands for the first time from some offset on; there is at most one
such place (`FirstAt.unique`), and `cutAt?` cuts a text there, or finds that the marker stands
nowhere (`cutAt?_eq_some_iff`, `cutAt?_eq_none_iff`).

A text that is put together from pieces and markers can be searched piece by piece, if each marker
begins with a character that it has nowhere else (`Led`): no marker begins in a piece and ends
behind it (`cutAt?_piece`), or begins inside another marker (`cutAt?_marker`).
-/

namespace DialogGate.Text

/-- At `n`, and nowhere before from `start` on, a marker stands in a text. -/
structure FirstAt (marker text : Text) (start n : Nat) : Prop where
  le : start ≤ n
  le_length : n ≤ text.length
  stands : marker <+: text.drop n
  first : ∀ m, start ≤ m → m < n → ¬marker <+: text.drop m

section
variable {marker text : Text} {start n : Nat}

theorem FirstAt.unique {m : Nat} (h : FirstAt marker text start n)
    (h' : FirstAt marker text start m) : n = m := by
  rcases Nat.lt_trichotomy n m with hlt | heq | hlt
  · exact absurd h.stands (h'.first n h.le hlt)
  · exact heq
  · exact absurd h'.stands (h.first m h'.le hlt)

/-- Looking from an offset on is looking at what stands behind it. -/
theorem firstAt_drop_iff (hs : start ≤ text.length) :
    FirstAt marker (text.drop start) 0 n ↔ FirstAt marker text start (start + n) := by
  constructor
  · intro h
    have hl := h.le_length
    rw [List.length_drop] at hl
    refine ⟨Nat.le_add_right _ _, by omega, by simpa using h.stands, fun m hm hlt => ?_⟩
    have hf := h.first (m - start) (Nat.zero_le _) (by omega)
    rwa [List.drop_drop, Nat.add_sub_cancel' hm] at hf
  · intro h
    have hl := h.le_length
    refine ⟨Nat.zero_le _, by rw [List.length_drop]; omega, by simpa using h.stands,
      fun m _ hlt => ?_⟩
    rw [List.drop_drop]
    exact h.first (start + m) (Nat.le_add_right _ _) (by omega)

/-- The text on either side of the first place of a marker. -/
theorem FirstAt.eq_append (h : FirstAt marker text start n) :
    text = text.take n ++ marker ++ text.drop (n + marker.length) := by
  obtain ⟨tail, ht⟩ := h.stands
  have hd : text.drop (n + marker.length) = tail := by
    rw [← List.drop_drop, ← ht, List.drop_left]
  rw [hd, List.append_assoc, ht, List.take_append_drop]

theorem FirstAt.add_length_le (h : FirstAt marker text start n) :
    n + marker.length ≤ text.length := by
  have hle := h.stands.length_le
  have hn := h.le_length
  rw [List.length_drop] at hle
  omega

end

/-! ## Cutting -/

section
variable {marker text before after : Text}

theorem firstAt_of_cutAt? (h : cutAt? marker text = some (before, after)) :
    FirstAt marker text 0 before.length := by
  have htext := cutAt?_eq_some h
  refine ⟨Nat.zero_le _, by simp [htext], ⟨after, by simp [htext]⟩, fun m _ hm => ?_⟩
  clear htext
  induction text generalizing before m with
  | nil =>
    simp only [cutAt?] at h
    split at h <;> simp_all
  | cons c rest ih =>
    simp only [cutAt?] at h
    split at h
    · simp only [Option.some.injEq, Prod.mk.injEq] at h
      simp [← h.1] at hm
    · next hp =>
      obtain ⟨⟨b, a⟩, hb, he⟩ := Option.map_eq_some_iff.1 h
      simp only [Prod.mk.injEq] at he
      obtain ⟨rfl, rfl⟩ := he
      cases m with
      | zero => exact fun hpre => hp (List.isPrefixOf_iff_prefix.2 hpre)
      | succ m => exact ih hb m (Nat.zero_le _) (by simpa using hm)

theorem cutAt?_eq_none_iff : cutAt? marker text = none ↔ ¬marker <:+: text := by
  induction text with
  | nil => cases marker <;> simp [cutAt?]
  | cons c rest ih =>
    rw [cutAt?, List.infix_cons_iff, not_or, ← ih]
    split
    · next hp => simp [List.isPrefixOf_iff_prefix.1 hp]
    · next hp => simp [mt List.isPrefixOf_iff_prefix.2 hp]

/-- A text is cut at the first place of the marker. -/
theorem cutAt?_eq_some_iff : cutAt? marker text = some (before, after) ↔
    ∃ n, FirstAt marker text 0 n ∧ before = text.take n ∧
      after = text.drop (n + marker.length) := by
  constructor
  · intro h
    have htext := cutAt?_eq_some h
    refine ⟨before.length, firstAt_of_cutAt? h, ?_, ?_⟩
    · rw [htext, List.append_assoc, List.take_left]
    · rw [htext, ← List.length_append, List.drop_left]
  · rintro ⟨n, hfirst, rfl, rfl⟩
    cases hc : cutAt? marker text with
    | none => exact absurd ⟨_, _, hfirst.eq_append.symm⟩ (cutAt?_eq_none_iff.1 hc)
    | some found =>
      obtain ⟨before, after⟩ := found
      have htext := cutAt?_eq_some hc
      rw [hfirst.unique (firstAt_of_cutAt? hc), htext, ← List.length_append, List.drop_left,
        List.append_assoc, List.take_left]

end

/-! ## Pieces and markers -/

/-- Begins with a character that it has nowhere else. -/
def Led (k : Char) (marker : Text) : Prop := ∃ rest, marker = k :: rest ∧ k ∉ rest

section
variable {k : Char} {marker other piece tail : Text}

theorem Led.ne_nil (h : Led k marker) : marker ≠ [] := by
  obtain ⟨rest, rfl, -⟩ := h
  exact List.cons_ne_nil k rest

/-- Puts what was passed over in front of what stands before the marker. -/
def prepend (passed : Text) (cut : Text × Text) : Text × Text := (passed ++ cut.1, cut.2)

theorem cutAt?_self (marker tail : Text) : cutAt? marker (marker ++ tail) = some ([], tail) := by
  refine cutAt?_eq_some_iff.2 ⟨0, ⟨Nat.le_refl _, Nat.zero_le _, ?_, ?_⟩, rfl, ?_⟩
  · exact List.prefix_append marker tail
  · intro m _ hm
    exact absurd hm (Nat.not_lt_zero m)
  · rw [Nat.zero_add, List.drop_left]

/-- A search goes on behind a text at each place of which the marker does not stand. -/
theorem cutAt?_append (h : ∀ s, s ≠ [] → s <:+ piece → ¬marker <+: s ++ tail) :
    cutAt? marker (piece ++ tail) = (cutAt? marker tail).map (prepend piece) := by
  induction piece with
  | nil =>
    rw [List.nil_append]
    cases cutAt? marker tail <;> rfl
  | cons c piece ih =>
    have hc : ¬marker.isPrefixOf (c :: (piece ++ tail)) = true := fun hp =>
      h _ (List.cons_ne_nil c piece) List.suffix_rfl (List.isPrefixOf_iff_prefix.1 hp)
    rw [List.cons_append, cutAt?, if_neg hc,
      ih fun s hne hs => h s hne (hs.trans (List.suffix_cons c piece)), Option.map_map]
    rfl

/-- No marker stands across the end of a piece without markers and the marker behind it. -/
theorem cutAt?_piece (hm : Led k marker) (hp : ¬marker <:+: piece)
    (ht : ∀ c, tail.head? = some c → c = k) :
    cutAt? marker (piece ++ tail) = (cutAt? marker tail).map (prepend piece) := by
  refine cutAt?_append fun s hne hs hpre => ?_
  rcases List.prefix_or_prefix_of_prefix hpre (List.prefix_append s tail) with hin | ⟨excess, rfl⟩
  · exact hp (hin.isInfix.trans hs.isInfix)
  · -- the part of the marker behind the piece would begin with the leading character
    obtain ⟨rest, hrest, hk⟩ := hm
    obtain ⟨c, s, rfl⟩ := List.exists_cons_of_ne_nil hne
    cases excess with
    | nil => exact hp (by simpa using hs.isInfix)
    | cons d excess =>
      obtain ⟨more, rfl⟩ := (List.prefix_append_right_inj _).1 hpre
      obtain rfl := ht d rfl
      rw [← (List.cons.inj hrest).2] at hk
      exact hk (by simp)

/-- No marker begins inside another one. -/
theorem cutAt?_marker (hm : Led k marker) (ho : Led k other) (h : ¬marker <+: other)
    (h' : ¬other <+: marker) :
    cutAt? marker (other ++ tail) = (cutAt? marker tail).map (prepend other) := by
  refine cutAt?_append fun s hne hs hpre => ?_
  obtain ⟨rest, rfl, -⟩ := hm
  obtain ⟨rest', rfl, hk⟩ := ho
  rcases List.suffix_cons_iff.1 hs with rfl | hs
  · rcases List.prefix_or_prefix_of_prefix hpre (List.prefix_append _ tail) with hin | hin
    · exact h hin
    · exact h' hin
  · obtain ⟨c, s, rfl⟩ := List.exists_cons_of_ne_nil hne
    obtain ⟨more, hmore⟩ := hpre
    obtain rfl := (List.cons.inj hmore).1
    exact hk (hs.subset (.head _))

end

end DialogGate.Text
