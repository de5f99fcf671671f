import Mathlib.Data.List.Nodup
import KeepApart.Json

/-!
# Values and their fields

What holds of a value if it holds of all its parts holds of every value. An object whose names are
distinct holds a field if and only if a look-up of its name finds the value. To set a field keeps the
names distinct, and a name that is new goes to the end.
-/

namespace KeepApart.Json

variable {fields : List (String × Json)} {name : String} {v w : Json}

@[elab_as_elim]
theorem parts_induction {motive : Json → Prop} (null : motive .null) (bool : ∀ b, motive (.bool b))
    (int : ∀ n, motive (.int n)) (float : ∀ x, motive (.float x)) (str : ∀ s, motive (.str s))
    (surrogates : ∀ codes, motive (.surrogates codes))
    (arr : ∀ items, (∀ v ∈ items, motive v) → motive (.arr items))
    (obj : ∀ fields, (∀ f ∈ fields, motive f.2) → motive (.obj fields)) (v : Json) : motive v :=
  Json.rec null bool int float str surrogates arr obj (List.forall_mem_nil _)
    (fun _ _ hv hrest => List.forall_mem_cons.2 ⟨hv, hrest⟩) (List.forall_mem_nil _)
    (fun _ _ hf hrest => List.forall_mem_cons.2 ⟨hf, hrest⟩) (fun _ _ hv => hv) v

theorem insertField_of_new (h : name ∉ fields.map Prod.fst) :
    insertField fields name v = fields ++ [(name, v)] := by
  induction fields with
  | nil => rfl
  | cons f rest ih =>
      rw [List.map_cons, List.mem_cons, not_or] at h
      rw [insertField, beq_false_of_ne (Ne.symm h.1), if_neg Bool.false_ne_true, ih h.2]
      rfl

theorem map_fst_insertField (fields : List (String × Json)) (name : String) (v : Json) :
    (insertField fields name v).map Prod.fst =
      if name ∈ fields.map Prod.fst then fields.map Prod.fst else fields.map Prod.fst ++ [name] := by
  induction fields with
  | nil => rfl
  | cons f rest ih =>
      rw [insertField]
      by_cases hf : f.1 = name
      · simp [hf]
      · rw [beq_false_of_ne hf, if_neg Bool.false_ne_true, List.map_cons, ih]
        simp only [List.map_cons, List.mem_cons, Ne.symm hf, false_or]
        split <;> rfl

theorem nodup_insertField (h : (fields.map Prod.fst).Nodup) (name : String) (v : Json) :
    ((insertField fields name v).map Prod.fst).Nodup := by
  rw [map_fst_insertField]
  split
  · exact h
  · rename_i hnew
    exact List.nodup_append.2 ⟨h, List.nodup_singleton name, by grind⟩

theorem new_of_nodup {seen rest : List (String × Json)} {f : String × Json}
    (h : ((seen ++ f :: rest).map Prod.fst).Nodup) : f.1 ∉ seen.map Prod.fst := by
  rw [List.map_append, List.map_cons] at h
  exact fun hmem => (List.nodup_append.1 h).2.2 _ hmem _ List.mem_cons_self rfl

theorem mem_iff_lookup? (h : (fields.map Prod.fst).Nodup) :
    (name, v) ∈ fields ↔ lookup? fields name = some v := by
  induction fields with
  | nil => simp [lookup?]
  | cons f rest ih =>
      obtain ⟨other, w⟩ := f
      rw [List.map_cons, List.nodup_cons] at h
      rw [List.mem_cons, lookup?_cons, Prod.mk.injEq]
      split
      · rename_i hname
        obtain rfl : other = name := hname
        have hrest : (other, v) ∉ rest := fun hmem => h.1 (List.mem_map.2 ⟨_, hmem, rfl⟩)
        rw [or_iff_left hrest, Option.some.injEq, and_iff_right rfl, eq_comm]
      · rename_i hname
        rw [or_iff_right fun heq => hname heq.1.symm, ih h.2]

end KeepApart.Json
