import DialogGate.Proofs.Text.Utf8

/-! # The keys of an object

The fields of an object stand in ascending order of the bytes of their keys, no key twice
(`Fields.Ascending`), and putting in a field keeps them so. That makes every object that is built
from fields an ordered one (`keysAscend_ofFields`).
-/

namespace DialogGate.Json

/-- Each key is greater than those before it, in the order of bytes. -/
def Fields.Ascending (fields : Fields) : Prop :=
  fields.Pairwise fun f g => Text.utf8 f.1 < Text.utf8 g.1

/-- The fields of an object ascend. -/
def KeysAscend : Json → Prop
  | object fields => Fields.Ascending fields
  | _ => True

variable {key : Text} {value : Json} {fields : Fields}

theorem Fields.key_of_mem_put {f : Text × Json} (h : f ∈ Fields.put key value fields) :
    f.1 = key ∨ f ∈ fields := by
  fun_induction Fields.put key value fields with
  | case1 => exact .inl (congrArg Prod.fst (List.mem_singleton.1 h))
  | case2 v rest =>
    rcases List.mem_cons.1 h with rfl | h
    · exact .inl rfl
    · exact .inr (.tail _ h)
  | case3 k v rest =>
    rcases List.mem_cons.1 h with rfl | h
    · exact .inl rfl
    · exact .inr h
  | case4 k v rest _ _ ih =>
    rcases List.mem_cons.1 h with rfl | h
    · exact .inr (.head _)
    · exact (ih h).imp_right (.tail _)

theorem Fields.Ascending.put (h : Fields.Ascending fields) (key : Text) (value : Json) :
    Fields.Ascending (Fields.put key value fields) := by
  fun_induction Fields.put key value fields with
  | case1 => exact List.pairwise_singleton _ _
  | case2 v rest => exact List.pairwise_cons.2 (List.pairwise_cons.1 h)
  | case3 k v rest hne hb =>
    have hlt := Text.utf8_lt_of_before hb
    refine List.pairwise_cons.2 ⟨fun f hf => ?_, h⟩
    rcases List.mem_cons.1 hf with rfl | hf
    · exact hlt
    · exact List.lt_trans hlt ((List.pairwise_cons.1 h).1 f hf)
  | case4 k v rest hne hb ih =>
    obtain ⟨hrest, htail⟩ := List.pairwise_cons.1 h
    have hlt := Text.utf8_lt_of_before ((Text.before_or_before hne).resolve_left hb)
    refine List.pairwise_cons.2 ⟨fun f hf => ?_, ih htail⟩
    rcases key_of_mem_put hf with he | hf
    · rwa [he]
    · exact hrest f hf

section
variable {f g : Text × Json} {front behind : Fields}

theorem Fields.Ascending.lt_of_mem_front (h : Fields.Ascending (front ++ f :: behind))
    (hg : g ∈ front) : Text.utf8 g.1 < Text.utf8 f.1 :=
  (List.pairwise_append.1 h).2.2 g hg f (.head _)

theorem Fields.Ascending.lt_of_mem_behind (h : Fields.Ascending (front ++ f :: behind))
    (hg : g ∈ behind) : Text.utf8 f.1 < Text.utf8 g.1 :=
  (List.pairwise_cons.1 (List.pairwise_append.1 h).2.1).1 g hg

end

theorem keysAscend_ofFields (fields : Fields) : KeysAscend (ofFields fields) := by
  suffices ∀ sorted, Fields.Ascending sorted →
      Fields.Ascending (fields.foldl (fun sorted f => Fields.put f.1 f.2 sorted) sorted) from
    this [] .nil
  induction fields with
  | nil => exact fun _ h => h
  | cons f fields ih => exact fun sorted h => ih _ (h.put f.1 f.2)

end DialogGate.Json
