import KeepApart.Json.Writing
import KeepApart.Proofs.Json.Fields
import KeepApart.Proofs.Json.Literals

/-!
# Reading what was written

A value without fractions and without halves of surrogate pairs, and with distinct names in its objects, is
read back from its text, whatever blanks stand between the parts of that. A reader with limits reads it
back if the value keeps to them.
-/

namespace KeepApart.Json

variable {s rest gap : List Char} {c : Char} {limits : Limits} {depth fuel : Nat} {v : Json}
  {items : List Json} {fields : List (String × Json)}

/-- A value without fractions and without halves of surrogate pairs, with distinct names in its
objects. -/
inductive IsExact : Json → Prop
  | null : IsExact .null
  | bool (b : Bool) : IsExact (.bool b)
  | int (n : Int) : IsExact (.int n)
  | str (s : String) : IsExact (.str s)
  | arr {items : List Json} : (∀ v ∈ items, IsExact v) → IsExact (.arr items)
  | obj {fields : List (String × Json)} :
    (fields.map Prod.fst).Nodup → (∀ f ∈ fields, IsExact f.2) → IsExact (.obj fields)

/-- An exact value that keeps to the limits of a reader, within `depth` others. -/
inductive IsLegible (limits : Limits) : Nat → Json → Prop
  | null (depth : Nat) : IsLegible limits depth .null
  | bool (depth : Nat) (b : Bool) : IsLegible limits depth (.bool b)
  | int (depth : Nat) {n : Int} :
    limits.isLong (Nat.toDigits 10 n.natAbs).length = false → IsLegible limits depth (.int n)
  | str (depth : Nat) (s : String) : IsLegible limits depth (.str s)
  | arr {depth : Nat} {items : List Json} : limits.isNested depth = false →
    (∀ v ∈ items, IsLegible limits (depth + 1) v) → IsLegible limits depth (.arr items)
  | obj {depth : Nat} {fields : List (String × Json)} : limits.isNested depth = false →
    (fields.map Prod.fst).Nodup → (∀ f ∈ fields, IsLegible limits (depth + 1) f.2) →
      IsLegible limits depth (.obj fields)

theorem IsExact.isLegible (h : IsExact v) (depth : Nat) : IsLegible .unlimited depth v := by
  induction h generalizing depth with
  | null => exact .null depth
  | bool b => exact .bool depth b
  | int n => exact .int depth rfl
  | str s => exact .str depth s
  | arr _ ih => exact .arr rfl fun v hv => ih v hv (depth + 1)
  | obj hnodup _ ih => exact .obj rfl hnodup fun f hf => ih f hf (depth + 1)

theorem IsLegible.isExact (h : IsLegible limits depth v) : IsExact v := by
  induction h with
  | null => exact .null
  | bool _ b => exact .bool b
  | @int _ n _ => exact .int n
  | str _ s => exact .str s
  | arr _ _ ih => exact .arr ih
  | obj _ hnodup _ ih => exact .obj hnodup ih

/-! ## How texts begin -/

theorem skipBlank_cons (hc : isJsonBlank c = false) : skipBlank (c :: rest) = c :: rest :=
  List.dropWhile_cons_of_neg (by simp [hc])

theorem exists_head_written (n : Int) : ∃ c cs, Schema.written n = c :: cs ∧
    (c = '-' ∨ c.isDigit = true) := by
  cases n with
  | negSucc k => exact ⟨'-', _, rfl, .inl rfl⟩
  | ofNat k =>
      obtain ⟨d, more, hdigits⟩ := List.exists_cons_of_ne_nil (Nat.toDigits_ne_nil (b := 10) (n := k))
      exact ⟨d, more, hdigits, .inr (Schema.isDigit_of_mem (hdigits ▸ List.mem_cons_self))⟩

theorem isJsonBlank_of_isDigit (hc : c.isDigit = true) : isJsonBlank c = false := by
  simp only [isJsonBlank, Bool.or_eq_false_iff, beq_eq_false_iff_ne]
  refine ⟨⟨⟨?_, ?_⟩, ?_⟩, ?_⟩ <;> (rintro rfl; exact absurd hc (by decide))

/-- The text of a value neither begins with a blank nor ends a list. -/
theorem IsLegible.exists_head (h : IsLegible limits depth v) (gap : List Char) :
    ∃ c cs, renderChars gap v = c :: cs ∧ isJsonBlank c = false ∧ c ≠ ']' := by
  cases h with
  | null => exact ⟨'n', _, by rw [renderChars]; rfl, by decide, by decide⟩
  | bool _ b =>
      cases b
      · exact ⟨'f', _, by rw [renderChars]; rfl, by decide, by decide⟩
      · exact ⟨'t', _, by rw [renderChars]; rfl, by decide, by decide⟩
  | @int _ n _ =>
      obtain ⟨c, cs, hwritten, hc⟩ := exists_head_written n
      refine ⟨c, cs, by rw [renderChars, Schema.toList_toString, hwritten], ?_⟩
      rcases hc with rfl | hc
      · exact ⟨by decide, by decide⟩
      · exact ⟨isJsonBlank_of_isDigit hc, by rintro rfl; exact absurd hc (by decide)⟩
  | str _ s => exact ⟨'"', _, by rw [renderChars]; rfl, by decide, by decide⟩
  | arr => exact ⟨'[', _, by rw [renderChars]; rfl, by decide, by decide⟩
  | obj => exact ⟨'{', _, by rw [renderChars]; rfl, by decide, by decide⟩

/-! ## Reading one value -/

theorem renderText_append (s : String) (rest : List Char) :
    renderText s ++ rest = '"' :: (s.toList.flatMap escapeChar ++ '"' :: rest) := by
  simp [renderText]

theorem readValue_text (fuel depth : Nat) (s : String) (rest : List Char) :
    readValue limits (fuel + 1) depth (renderText s ++ rest) = .ok (.str s, rest) := by
  have hcodes := readCodes_text s.toList rest
  rw [renderText_append, readValue, hcodes]
  change Except.ok (ofCodes (s.toList.map Char.toNat), rest) = _
  rw [ofCodes_toNat]

/-- A value that begins neither a text nor a list nor an object is a name or a number. -/
theorem readValue_word (fuel depth : Nat) (hc : c ≠ '"' ∧ c ≠ '{' ∧ c ≠ '[') (cs : List Char) :
    readValue limits (fuel + 1) depth (c :: cs) = readWord limits (c :: cs) := by
  rw [readValue]
  all_goals
    rintro _ heq
    cases heq
    simp at hc

theorem readValue_items (hdepth : limits.isNested depth = false) (hc : isJsonBlank c = false)
    (hclose : c ≠ ']') {cs : List Char}
    (hread : readItems limits fuel (depth + 1) [] (c :: cs) = .ok (items, rest)) :
    readValue limits (fuel + 1) depth ('[' :: c :: cs) = .ok (.arr items, rest) := by
  rw [readValue, hdepth, if_neg Bool.false_ne_true, skipBlank_cons hc]
  split
  · rename_i heq
    exact absurd (List.cons.inj heq).1 hclose
  · rw [hread]
    rfl

theorem readValue_fields (hdepth : limits.isNested depth = false) {cs : List Char}
    (hread : readFields limits fuel (depth + 1) [] ('"' :: cs) = .ok (fields, rest)) :
    readValue limits (fuel + 1) depth ('{' :: '"' :: cs) = .ok (.obj fields, rest) := by
  rw [readValue, hdepth, if_neg Bool.false_ne_true, skipBlank_cons (by decide)]
  split
  · rename_i heq
    cases heq
  · rw [hread]
    rfl

/-- The value is read back wherever it stands, with as much fuel as its text is long. -/
def ReadsBack (limits : Limits) (gap : List Char) (depth : Nat) (v : Json) : Prop :=
  ∀ fuel rest, (renderChars gap v).length ≤ fuel → Ends rest →
    readValue limits fuel depth (renderChars gap v ++ rest) = .ok (v, rest)

theorem ends_cons (hc : c = ',' ∨ c = ']' ∨ c = '}') (rest : List Char) : Ends (c :: rest) := by
  intro d hd
  obtain rfl : c = d := Option.some.inj hd
  exact hc

theorem skipBlank_gap (hgap : ∀ c ∈ gap, isJsonBlank c = true) (hc : isJsonBlank c = false) :
    skipBlank (gap ++ c :: rest) = c :: rest := by
  rw [skipBlank, List.dropWhile_append_of_pos hgap]
  exact skipBlank_cons hc

/-! ## Reading items -/

theorem readItems_last (hv : readValue limits fuel depth s = .ok (v, ']' :: rest)) (seen : List Json) :
    readItems limits (fuel + 1) depth seen s = .ok ((v :: seen).reverse, rest) := by
  rw [readItems, hv]
  rfl

theorem readItems_more (hgap : ∀ c ∈ gap, isJsonBlank c = true) (hc : isJsonBlank c = false)
    (hv : readValue limits fuel depth s = .ok (v, ',' :: (gap ++ c :: rest))) (seen : List Json) :
    readItems limits (fuel + 1) depth seen s = readItems limits fuel depth (v :: seen) (c :: rest) := by
  rw [readItems, hv]
  change readItems limits fuel depth (v :: seen) (skipBlank (gap ++ c :: rest)) = _
  rw [skipBlank_gap hgap hc]

theorem renderItems_cons_cons (gap : List Char) (v w : Json) (items : List Json) :
    renderItems gap (v :: w :: items) =
      renderChars gap v ++ ',' :: (gap ++ renderItems gap (w :: items)) := by
  rw [renderItems]
  rfl

theorem exists_head_items (hv : IsLegible limits depth v) (gap : List Char) (items : List Json) :
    ∃ c cs, renderItems gap (v :: items) = c :: cs ∧ isJsonBlank c = false ∧ c ≠ ']' := by
  obtain ⟨c, cs, hhead, hc⟩ := hv.exists_head gap
  rw [renderItems, hhead]
  exact ⟨c, _, rfl, hc⟩

theorem readItems_render (hgap : ∀ c ∈ gap, isJsonBlank c = true) (hne : items ≠ [])
    (hlegible : ∀ v ∈ items, IsLegible limits depth v)
    (hreads : ∀ v ∈ items, ReadsBack limits gap depth v) (seen : List Json) (rest : List Char)
    (hfuel : (renderItems gap items).length < fuel) :
    readItems limits fuel depth seen (renderItems gap items ++ ']' :: rest) =
      .ok (seen.reverse ++ items, rest) := by
  induction items generalizing seen fuel with
  | nil => exact absurd rfl hne
  | cons v items ih =>
      rw [List.forall_mem_cons] at hlegible hreads
      obtain ⟨fuel, rfl⟩ : ∃ k, fuel = k + 1 := ⟨fuel - 1, by omega⟩
      cases items with
      | nil =>
          simp only [renderItems, List.isEmpty_nil, if_true, List.append_nil] at hfuel ⊢
          have hv := hreads.1 fuel (']' :: rest) (by omega) (ends_cons (by simp) rest)
          rw [readItems_last hv, List.reverse_cons]
      | cons w items =>
          obtain ⟨c, cs, hhead, hc, -⟩ :=
            exists_head_items (hlegible.2 w List.mem_cons_self) gap items
          rw [renderItems_cons_cons, List.length_append, List.length_cons, List.length_append] at hfuel
          have hv := hreads.1 fuel (',' :: (gap ++ c :: (cs ++ ']' :: rest))) (by omega)
            (ends_cons (by simp) _)
          have hrest := ih (List.cons_ne_nil w items) hlegible.2 hreads.2 (v :: seen)
            (show (renderItems gap (w :: items)).length < fuel by omega)
          rw [hhead, List.cons_append] at hrest
          have hsplit : renderItems gap (v :: w :: items) ++ ']' :: rest =
              renderChars gap v ++ ',' :: (gap ++ c :: (cs ++ ']' :: rest)) := by
            simp [renderItems_cons_cons, hhead]
          rw [hsplit, readItems_more hgap hc hv, hrest]
          simp

/-! ## Reading fields -/

theorem readFields_name (hgap : ∀ c ∈ gap, isJsonBlank c = true) (hc : isJsonBlank c = false)
    (name : String) (seen : List (String × Json))
    (hv : readValue limits fuel depth (c :: s) = .ok (v, rest)) :
    readFields limits (fuel + 1) depth seen (renderText name ++ ':' :: (gap ++ c :: s)) =
      match skipBlank rest with
      | '}' :: rest => .ok (insertField seen name v, rest)
      | ',' :: rest => readFields limits fuel depth (insertField seen name v) (skipBlank rest)
      | rest => .error (.malformed rest.length) := by
  rw [renderText_append, readFields, readCodes_text]
  change (readValue limits fuel depth (skipBlank (gap ++ c :: s)) >>= _) = _
  rw [skipBlank_gap hgap hc, hv, ofCodes_toNat]
  rfl

theorem renderFields_singleton (gap : List Char) (name : String) (v : Json) :
    renderFields gap [(name, v)] = renderText name ++ ':' :: (gap ++ renderChars gap v) := by
  simp [renderFields]

theorem renderFields_cons_cons (gap : List Char) (name : String) (v : Json) (f : String × Json)
    (fields : List (String × Json)) :
    renderFields gap ((name, v) :: f :: fields) =
      renderText name ++ ':' :: (gap ++ (renderChars gap v ++
        ',' :: (gap ++ renderFields gap (f :: fields)))) := by
  rw [renderFields]
  simp

theorem exists_head_fields (gap : List Char) (f : String × Json) (fields : List (String × Json)) :
    ∃ cs, renderFields gap (f :: fields) = '"' :: cs := by
  rw [renderFields, renderText]
  exact ⟨_, rfl⟩

theorem readFields_render (hgap : ∀ c ∈ gap, isJsonBlank c = true) (hne : fields ≠ [])
    (hlegible : ∀ f ∈ fields, IsLegible limits depth f.2)
    (hreads : ∀ f ∈ fields, ReadsBack limits gap depth f.2) (seen : List (String × Json))
    (hnodup : ((seen ++ fields).map Prod.fst).Nodup) (rest : List Char)
    (hfuel : (renderFields gap fields).length < fuel) :
    readFields limits fuel depth seen (renderFields gap fields ++ '}' :: rest) =
      .ok (seen ++ fields, rest) := by
  induction fields generalizing seen fuel with
  | nil => exact absurd rfl hne
  | cons f fields ih =>
      obtain ⟨name, v⟩ := f
      rw [List.forall_mem_cons] at hlegible hreads
      obtain ⟨fuel, rfl⟩ : ∃ k, fuel = k + 1 := ⟨fuel - 1, by omega⟩
      have hnew : name ∉ seen.map Prod.fst := new_of_nodup hnodup
      have hback : ReadsBack limits gap depth v := hreads.1
      obtain ⟨c, cs, hhead, hc, -⟩ := hlegible.1.exists_head gap
      cases fields with
      | nil =>
          simp only [renderFields_singleton, List.length_append, List.length_cons] at hfuel
          have hv := hback fuel ('}' :: rest) (by omega) (ends_cons (by simp) rest)
          rw [hhead, List.cons_append] at hv
          have hsplit : renderFields gap [(name, v)] ++ '}' :: rest =
              renderText name ++ ':' :: (gap ++ c :: (cs ++ '}' :: rest)) := by
            simp [renderFields_singleton, hhead]
          rw [hsplit, readFields_name hgap hc name seen hv, insertField_of_new hnew]
          rfl
      | cons f fields =>
          obtain ⟨cs', hhead'⟩ := exists_head_fields gap f fields
          simp only [renderFields_cons_cons, List.length_append, List.length_cons] at hfuel
          have hv := hback fuel (',' :: (gap ++ '"' :: (cs' ++ '}' :: rest))) (by omega)
            (ends_cons (by simp) _)
          have hrest := ih (List.cons_ne_nil f fields) hlegible.2 hreads.2 (seen ++ [(name, v)])
            (by simpa using hnodup) (show (renderFields gap (f :: fields)).length < fuel by omega)
          rw [hhead', List.cons_append] at hrest
          rw [hhead, List.cons_append] at hv
          have hsplit : renderFields gap ((name, v) :: f :: fields) ++ '}' :: rest =
              renderText name ++ ':' :: (gap ++ c :: (cs ++
                ',' :: (gap ++ '"' :: (cs' ++ '}' :: rest)))) := by
            simp [renderFields_cons_cons, hhead, hhead']
          rw [hsplit, readFields_name hgap hc name seen hv, insertField_of_new hnew]
          change readFields limits fuel depth (seen ++ [(name, v)])
            (skipBlank (gap ++ '"' :: (cs' ++ '}' :: rest))) = _
          rw [skipBlank_gap hgap (by decide), hrest]
          simp

/-! ## Reading back -/

/-- No text of a value is empty, so that there is fuel to begin with. -/
theorem ReadsBack.of_fuel (h : IsLegible limits depth v)
    (hread : ∀ fuel rest, (renderChars gap v).length ≤ fuel + 1 → Ends rest →
      readValue limits (fuel + 1) depth (renderChars gap v ++ rest) = .ok (v, rest)) :
    ReadsBack limits gap depth v := by
  intro fuel rest hfuel hrest
  obtain ⟨c, cs, hhead, -⟩ := h.exists_head gap
  have hpos : 0 < (renderChars gap v).length := by simp [hhead]
  obtain ⟨fuel, rfl⟩ : ∃ k, fuel = k + 1 := ⟨fuel - 1, by omega⟩
  exact hread fuel rest hfuel hrest

theorem IsLegible.readsBack (h : IsLegible limits depth v) (hgap : ∀ c ∈ gap, isJsonBlank c = true) :
    ReadsBack limits gap depth v := by
  induction v using parts_induction generalizing depth with
  | float | surrogates => cases h
  | null =>
      refine .of_fuel h fun fuel rest _ _ => ?_
      rw [renderChars]
      exact readValue_word fuel depth (by decide) _
  | bool b =>
      refine .of_fuel h fun fuel rest _ _ => ?_
      rw [renderChars]
      cases b
      · exact readValue_word fuel depth (by decide) _
      · exact readValue_word fuel depth (by decide) _
  | int n =>
      refine .of_fuel h fun fuel rest _ hrest => ?_
      cases h with
      | int _ hn =>
          obtain ⟨c, cs, hhead, hc⟩ := exists_head_written n
          have hword := readWord_written n hrest hn
          rw [renderChars, Schema.toList_toString]
          rw [hhead] at hword ⊢
          rw [← hword]
          refine readValue_word fuel depth ⟨?_, ?_, ?_⟩ _ <;>
            (rintro rfl; simp [Char.isDigit] at hc)
  | str s =>
      refine .of_fuel h fun fuel rest _ _ => ?_
      rw [renderChars]
      exact readValue_text fuel depth s rest
  | arr items ih =>
      refine .of_fuel h fun fuel rest hfuel _ => ?_
      cases h with
      | arr hdepth hitems =>
          have hsplit : renderChars gap (.arr items) ++ rest =
              '[' :: (renderItems gap items ++ ']' :: rest) := by simp [renderChars]
          rw [renderChars, List.length_append, List.length_cons, List.length_singleton] at hfuel
          rw [hsplit]
          cases items with
          | nil =>
              rw [readValue, hdepth]
              rfl
          | cons v items =>
              have hread := readItems_render hgap (List.cons_ne_nil v items) hitems
                (fun w hw => ih w hw (hitems w hw)) [] rest
                (show (renderItems gap (v :: items)).length < fuel by omega)
              obtain ⟨c, cs, hhead, hc, hclose⟩ :=
                exists_head_items (hitems v List.mem_cons_self) gap items
              rw [hhead] at hread ⊢
              exact readValue_items hdepth hc hclose hread
  | obj fields ih =>
      refine .of_fuel h fun fuel rest hfuel _ => ?_
      cases h with
      | obj hdepth hnodup hfields =>
          have hsplit : renderChars gap (.obj fields) ++ rest =
              '{' :: (renderFields gap fields ++ '}' :: rest) := by simp [renderChars]
          rw [renderChars, List.length_append, List.length_cons, List.length_singleton] at hfuel
          rw [hsplit]
          cases fields with
          | nil =>
              rw [readValue, hdepth]
              rfl
          | cons f fields =>
              have hread := readFields_render hgap (List.cons_ne_nil f fields) hfields
                (fun g hg => ih g hg (hfields g hg)) [] hnodup rest
                (show (renderFields gap (f :: fields)).length < fuel by omega)
              obtain ⟨cs, hhead⟩ := exists_head_fields gap f fields
              rw [hhead] at hread ⊢
              exact readValue_fields hdepth hread

theorem IsLegible.readWithin_render (h : IsLegible limits 0 v)
    (hgap : ∀ c ∈ gap, isJsonBlank c = true) :
    readWithin limits (renderChars gap v) = .ok v := by
  obtain ⟨c, cs, hhead, hc, -⟩ := h.exists_head gap
  have hends : Ends [] := fun c hc => nomatch hc
  have hread := h.readsBack hgap ((renderChars gap v).length + 1) [] (Nat.le_succ _) hends
  have hstart : skipBlank (renderChars gap v) = renderChars gap v := by
    rw [hhead, skipBlank_cons hc]
  rw [List.append_nil] at hread
  rw [readWithin, hstart, hread]
  rfl

/-! ## Writing within limits -/

theorem excessOfItems?_eq_none :
    excessOfItems? limits depth items = none ↔ ∀ v ∈ items, excess? limits depth v = none := by
  induction items with
  | nil => simp [excessOfItems?]
  | cons v items ih => rw [excessOfItems?, Option.or_eq_none_iff, ih, List.forall_mem_cons]

theorem excessOfFields?_eq_none :
    excessOfFields? limits depth fields = none ↔ ∀ f ∈ fields, excess? limits depth f.2 = none := by
  induction fields with
  | nil => simp [excessOfFields?]
  | cons f fields ih => rw [excessOfFields?, Option.or_eq_none_iff, ih, List.forall_mem_cons]

theorem excess?_unlimited (v : Json) : excess? .unlimited depth v = none := by
  induction v using parts_induction generalizing depth with
  | null | bool | float | str | surrogates => simp only [excess?]
  | int n =>
      rw [excess?]
      rfl
  | arr items ih =>
      rw [excess?]
      exact excessOfItems?_eq_none.2 fun v hv => ih v hv
  | obj fields ih =>
      rw [excess?]
      exact excessOfFields?_eq_none.2 fun f hf => ih f hf

/-- Nothing goes too far in an exact value just when it keeps to the limits. -/
theorem IsExact.excess?_eq_none (h : IsExact v) :
    excess? limits depth v = none ↔ IsLegible limits depth v := by
  induction h generalizing depth with
  | null => exact iff_of_true (by simp only [excess?]) (.null depth)
  | bool b => exact iff_of_true (by simp only [excess?]) (.bool depth b)
  | int n =>
      rw [excess?, ite_eq_right_iff]
      constructor
      · intro hshort
        exact .int depth (Bool.eq_false_iff.2 fun hlong => by cases hshort hlong)
      · rintro ⟨⟩ hlong
        rename_i hshort
        exact absurd hlong (Bool.eq_false_iff.1 hshort)
  | str s => exact iff_of_true (by simp only [excess?]) (.str depth s)
  | arr _ ih =>
      rw [excess?]
      constructor
      · intro hnone
        split at hnone
        · cases hnone
        · rename_i hroom
          refine .arr (Bool.eq_false_iff.2 hroom) fun v hv => (ih v hv).1 ?_
          exact excessOfItems?_eq_none.1 hnone v hv
      · rintro ⟨⟩
        rename_i hroom hitems
        rw [hroom, if_neg Bool.false_ne_true, excessOfItems?_eq_none]
        exact fun v hv => (ih v hv).2 (hitems v hv)
  | obj hnodup _ ih =>
      rw [excess?]
      constructor
      · intro hnone
        split at hnone
        · cases hnone
        · rename_i hroom
          refine .obj (Bool.eq_false_iff.2 hroom) hnodup fun f hf => (ih f hf).1 ?_
          exact excessOfFields?_eq_none.1 hnone f hf
      · rintro ⟨⟩
        rename_i hroom _ hfields
        rw [hroom, if_neg Bool.false_ne_true, excessOfFields?_eq_none]
        exact fun f hf => (ih f hf).2 (hfields f hf)

theorem IsExact.write_eq_ok (h : IsExact v) {text : String} :
    write limits v = .ok text ↔ IsLegible limits 0 v ∧ v.render = text := by
  rw [write, ← h.excess?_eq_none]
  cases excess? limits 0 v <;> simp

end KeepApart.Json
