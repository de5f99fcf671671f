import KeepApart.Proofs.Json.Reading
import KeepApart.Proofs.Text.Clipped
import KeepApart.Security.Event

/-!
# Cleaned contexts

A context is cleaned at every level: names and texts become tidy and have a bounded length, objects stay
objects and what is no text stays as it is. Names that are clipped to the same text leave one item, with
the value of the last of them. A cleaned context is not changed when it is cleaned again. Nothing is left
of a context with a list that has no text.
-/

namespace KeepApart.Security

open Json

variable {context level out done : List (String × Json)} {name : String} {w : Json}

/-! ## The items of a level -/

def lastNamed? (level : List (String × Json)) (name : String) : Option (String × Json) :=
  (level.filter fun f => Text.clip keyWidth f.1 = name).getLast?

theorem lastNamed?_cons (f : String × Json) (level : List (String × Json)) (name : String) :
    lastNamed? (f :: level) name =
      (lastNamed? level name).or (if Text.clip keyWidth f.1 = name then some f else none) := by
  rw [lastNamed?, lastNamed?, List.filter_cons]
  split
  · rename_i hname
    rw [List.getLast?_cons, if_pos (of_decide_eq_true hname)]
    cases List.getLast? _ <;> rfl
  · rename_i hname
    rw [if_neg (mt decide_eq_true hname), Option.or_none]

theorem lookup?_cleanFields (done level : List (String × Json)) (name : String) :
    lookup? (cleanFields done level) name =
      ((lastNamed? level name).map fun f => cleanValue f.2).or (lookup? done name) := by
  induction level generalizing done with
  | nil => rfl
  | cons f rest ih =>
      rw [cleanFields, ih, lookup?_insertField, lastNamed?_cons, Option.map_or, Option.or_assoc]
      split <;> rfl

theorem nodup_cleanFields (done level : List (String × Json)) (h : (done.map Prod.fst).Nodup) :
    ((cleanFields done level).map Prod.fst).Nodup := by
  induction level generalizing done with
  | nil => rwa [cleanFields]
  | cons f rest ih => exact ih _ (nodup_insertField h _ _)

theorem nodup_cleanContext (level : List (String × Json)) :
    ((cleanContext level).map Prod.fst).Nodup :=
  nodup_cleanFields [] level List.nodup_nil

theorem mem_cleanContext :
    (name, w) ∈ cleanContext level ↔ ∃ f, lastNamed? level name = some f ∧ cleanValue f.2 = w := by
  rw [mem_iff_lookup? (nodup_cleanContext level), cleanContext, lookup?_cleanFields,
    show lookup? [] name = none from rfl, Option.or_none, Option.map_eq_some_iff]

theorem exists_of_mem_cleanContext {f : String × Json} (hf : f ∈ cleanContext level) :
    ∃ e ∈ level, Text.clip keyWidth e.1 = f.1 ∧ cleanValue e.2 = f.2 := by
  obtain ⟨e, he, hvalue⟩ := mem_cleanContext.1 hf
  obtain ⟨hmem, hname⟩ := List.mem_filter.1 (List.mem_of_getLast? he)
  exact ⟨e, hmem, of_decide_eq_true hname, hvalue⟩

/-! ## Texts with halves of surrogate pairs -/

variable {codes : List Nat} {s : List Char} {c : Char} {width : Nat}

theorem shownChar_of_whole {code : Nat} (hcode : isSurrogate code = false) :
    shownChar code = Char.ofNat code := by
  rw [shownChar, hcode, if_neg Bool.false_ne_true]

theorem shownChar_toNat (c : Char) : shownChar c.toNat = c := by
  rw [shownChar_of_whole (isSurrogate_toNat c), Char.ofNat_toNat]

theorem restoreCodes_cons_of_ne (hc : c ≠ '\uFFFD') :
    restoreCodes codes (c :: s) = c.toNat :: restoreCodes codes s := by
  cases codes with
  | nil => rw [restoreCodes]
  | cons code codes => rw [restoreCodes, if_neg hc]

theorem map_restoreCodes (h : ∀ code ∈ codes, shownChar code = '\uFFFD') :
    (restoreCodes codes s).map shownChar = s := by
  induction s generalizing codes with
  | nil => rw [restoreCodes, List.map_nil]
  | cons c s ih =>
      by_cases hc : c = '\uFFFD'
      · cases codes with
        | nil => rw [restoreCodes, List.map_cons, shownChar_toNat, ih h]
        | cons code codes =>
            rw [List.forall_mem_cons] at h
            rw [restoreCodes, if_pos hc, List.map_cons, h.1, ih h.2, hc]
      · rw [restoreCodes_cons_of_ne hc, List.map_cons, shownChar_toNat, ih h]

theorem mem_restoreCodes {code : Nat} (h : code ∈ restoreCodes codes s) :
    code ∈ codes ∨ ∃ c : Char, c.toNat = code := by
  induction s generalizing codes with
  | nil =>
      rw [restoreCodes] at h
      cases h
  | cons c s ih =>
      cases codes with
      | nil =>
          rw [restoreCodes, List.mem_cons] at h
          rcases h with rfl | h
          · exact .inr ⟨c, rfl⟩
          · exact ih h
      | cons first codes =>
          rw [restoreCodes] at h
          split at h
          · rcases List.mem_cons.1 h with rfl | h
            · exact .inl List.mem_cons_self
            · exact (ih h).imp_left (List.mem_cons_of_mem _)
          · rcases List.mem_cons.1 h with rfl | h
            · exact .inr ⟨c, rfl⟩
            · exact ih h

theorem restoreCodes_self
    (h : ∀ code ∈ codes, shownChar code = '\uFFFD' ∨ (shownChar code).toNat = code) :
    restoreCodes (codes.filter fun code => shownChar code = '\uFFFD') (codes.map shownChar) =
      codes := by
  induction codes with
  | nil => rfl
  | cons code codes ih =>
      rw [List.forall_mem_cons] at h
      rw [List.map_cons]
      by_cases hcode : shownChar code = '\uFFFD'
      · rw [List.filter_cons, if_pos (decide_eq_true hcode), restoreCodes, if_pos hcode, ih h.2]
      · rw [List.filter_cons, if_neg (mt of_decide_eq_true hcode), restoreCodes_cons_of_ne hcode,
          ih h.2, h.1.resolve_left hcode]

theorem map_clipCodes (width : Nat) (codes : List Nat) :
    (clipCodes width codes).map shownChar = Text.clipChars width (codes.map shownChar) :=
  map_restoreCodes fun _ hcode => of_decide_eq_true (List.mem_filter.1 hcode).2

theorem clipCodes_clipCodes (hwidth : width ≤ 486) (codes : List Nat) :
    clipCodes width (clipCodes width codes) = clipCodes width codes := by
  have hroom : width + Text.truncationMark.length ≤ 500 := Nat.add_le_add_right hwidth 14
  have hsame : Text.clipChars width ((clipCodes width codes).map shownChar) =
      (clipCodes width codes).map shownChar := by
    rw [map_clipCodes, Text.clipChars_clipChars hroom]
  rw [clipCodes, hsame]
  refine restoreCodes_self fun code hcode => ?_
  rcases mem_restoreCodes hcode with hshown | ⟨c, rfl⟩
  · exact .inl (of_decide_eq_true (List.mem_filter.1 hshown).2)
  · rw [shownChar_toNat]
    exact .inr rfl

/-- Code points are a text as it is shown, or a text with halves of surrogate pairs. -/
theorem ofCodes_eq (codes : List Nat) :
    ofCodes codes = .str (String.ofList (codes.map shownChar)) ∨ ofCodes codes = .surrogates codes := by
  cases hhalf : codes.any isSurrogate with
  | true =>
      right
      rw [ofCodes, hhalf, if_pos rfl]
  | false =>
      left
      have hchars : codes.map Char.ofNat = codes.map shownChar := by
        refine List.map_congr_left fun code hcode => ?_
        have hwhole := Bool.eq_false_iff.2 (List.any_eq_false.1 hhalf code hcode)
        rw [shownChar_of_whole hwhole]
      rw [ofCodes, hhalf, if_neg Bool.false_ne_true, hchars]

theorem ofCodes_ne_obj (codes : List Nat) (fields : List (String × Json)) :
    ofCodes codes ≠ .obj fields := by
  intro h
  rw [ofCodes] at h
  split at h <;> cases h

theorem ofCodes_ne_arr (codes : List Nat) (items : List Json) : ofCodes codes ≠ .arr items := by
  intro h
  rw [ofCodes] at h
  split at h <;> cases h

/-- What a text with halves of surrogate pairs is clipped to is a text if the halves were cut off. -/
theorem ofCodes_clipCodes (codes : List Nat) :
    ofCodes (clipCodes valueWidth codes) =
        .str (Text.clip valueWidth (String.ofList (codes.map shownChar))) ∨
      ofCodes (clipCodes valueWidth codes) = .surrogates (clipCodes valueWidth codes) := by
  refine (ofCodes_eq (clipCodes valueWidth codes)).imp_left fun hwhole => ?_
  rw [hwhole, map_clipCodes, Text.clip, String.toList_ofList]

/-! ## Cleaning again -/

theorem cleanFields_of_fixed (hnodup : ((done ++ level).map Prod.fst).Nodup)
    (hfixed : ∀ f ∈ level, Text.clip keyWidth f.1 = f.1 ∧ cleanValue f.2 = f.2) :
    cleanFields done level = done ++ level := by
  induction level generalizing done with
  | nil => rw [cleanFields, List.append_nil]
  | cons f rest ih =>
      rw [List.forall_mem_cons] at hfixed
      rw [cleanFields, hfixed.1.1, hfixed.1.2, insertField_of_new (new_of_nodup hnodup)]
      have hrest : cleanFields (done ++ [f]) rest = done ++ [f] ++ rest :=
        ih (by simpa using hnodup) hfixed.2
      simpa using hrest

theorem cleanContext_cleanContext_of
    (h : ∀ f ∈ level, cleanValue (cleanValue f.2) = cleanValue f.2) :
    cleanContext (cleanContext level) = cleanContext level := by
  refine cleanFields_of_fixed (nodup_cleanContext level) fun f hf => ?_
  obtain ⟨e, he, hname, hvalue⟩ := exists_of_mem_cleanContext hf
  rw [← hname, ← hvalue]
  exact ⟨Text.clip_clip (by decide) e.1, h e he⟩

theorem cleanValue_cleanValue (v : Json) : cleanValue (cleanValue v) = cleanValue v := by
  induction v using parts_induction with
  | null | bool | int | float => simp only [cleanValue]
  | str | arr => simp only [cleanValue, Text.clip_clip (show valueWidth ≤ 486 by decide)]
  | surrogates codes =>
      rw [cleanValue]
      rcases ofCodes_clipCodes codes with hwhole | hhalf
      · rw [hwhole, cleanValue, Text.clip_clip (by decide)]
      · rw [hhalf, cleanValue, clipCodes_clipCodes (by decide), hhalf]
  | obj fields ih =>
      rw [cleanValue, cleanValue]
      exact congrArg Json.obj (cleanContext_cleanContext_of ih)

/-! ## What is left of a context -/

/-- A value and what is left of it. An object has the clipped names of its items, each once and with what
is left of the last item that was so named. What is neither an object nor null, a truth value or a number
becomes a text. -/
inductive Cleaned : Json → Json → Prop
  | null : Cleaned .null .null
  | bool (b : Bool) : Cleaned (.bool b) (.bool b)
  | int (n : Int) : Cleaned (.int n) (.int n)
  | float (x : Float) : Cleaned (.float x) (.float x)
  | text (s : String) : Cleaned (.str s) (.str (Text.clip valueWidth s))
  | surrogates (codes : List Nat) :
    Cleaned (.surrogates codes) (.ofCodes (clipCodes valueWidth codes))
  | list (values : List Json) :
    Cleaned (.arr values) (.str (Text.clip valueWidth (Json.arr values).display))
  | items {level out : List (String × Json)} (nodup : (out.map Prod.fst).Nodup)
    (names : ∀ name, name ∈ out.map Prod.fst ↔ ∃ f ∈ level, Text.clip keyWidth f.1 = name)
    (values : ∀ name w f, (name, w) ∈ out → lastNamed? level name = some f → Cleaned f.2 w) :
    Cleaned (.obj level) (.obj out)

theorem isSome_lastNamed? :
    (lastNamed? level name).isSome = true ↔ ∃ f ∈ level, Text.clip keyWidth f.1 = name := by
  rw [lastNamed?, List.getLast?_isSome, ← List.length_pos_iff, List.length_pos_iff_exists_mem]
  simp only [List.mem_filter, decide_eq_true_eq]

theorem mem_names_cleanContext :
    name ∈ (cleanContext level).map Prod.fst ↔ ∃ f ∈ level, Text.clip keyWidth f.1 = name := by
  rw [← isSome_lastNamed?, Option.isSome_iff_exists, List.mem_map]
  constructor
  · rintro ⟨e, hmem, rfl⟩
    obtain ⟨f, hf, -⟩ := mem_cleanContext.1 hmem
    exact ⟨f, hf⟩
  · rintro ⟨f, hf⟩
    exact ⟨(name, cleanValue f.2), mem_cleanContext.2 ⟨f, hf, rfl⟩, rfl⟩

/-- Values that are cleaned one by one are cleaned together, as the items of a level. -/
theorem cleaned_cleanContext_of (h : ∀ f ∈ level, Cleaned f.2 (cleanValue f.2)) :
    Cleaned (.obj level) (.obj (cleanContext level)) := by
  refine .items (nodup_cleanContext level) (fun _ => mem_names_cleanContext) ?_
  intro name w f hw hf
  obtain ⟨e, he, rfl⟩ := mem_cleanContext.1 hw
  obtain rfl : e = f := Option.some.inj (he.symm.trans hf)
  exact h e (List.mem_filter.1 (List.mem_of_getLast? he)).1

theorem cleaned_cleanValue (v : Json) : Cleaned v (cleanValue v) := by
  induction v using parts_induction with
  | null => exact .null
  | bool b => exact .bool b
  | int n => exact .int n
  | float x => exact .float x
  | str s =>
      rw [cleanValue]
      exact .text s
  | surrogates codes =>
      rw [cleanValue]
      exact .surrogates codes
  | arr items =>
      rw [cleanValue]
      exact .list items
  | obj fields ih =>
      rw [cleanValue]
      exact cleaned_cleanContext_of ih

/-! ## All levels -/

inductive IsLevel (context : List (String × Json)) : List (String × Json) → Prop
  | outermost : IsLevel context context
  | within {level inner : List (String × Json)} {name : String} :
    IsLevel context level → (name, .obj inner) ∈ level → IsLevel context inner

/-- A text that is tidy and not too long. Nothing is asked of other values. -/
def IsTidyText : Json → Prop
  | .str s => s.length ≤ 214 ∧ Text.IsTidy s.toList
  | .surrogates codes => codes.length ≤ 214 ∧ Text.IsTidy (codes.map shownChar)
  | _ => True

structure IsTidyLevel (out : List (String × Json)) : Prop where
  names : ∀ f ∈ out, f.1.length ≤ 114 ∧ Text.IsTidy f.1.toList
  texts : ∀ f ∈ out, IsTidyText f.2

theorem isTidyText_clip (s : String) : IsTidyText (.str (Text.clip valueWidth s)) :=
  ⟨Text.length_clip_le valueWidth s, Text.isTidy_clip valueWidth s⟩

theorem isTidyText_cleanValue (v : Json) : IsTidyText (cleanValue v) := by
  cases v with
  | null | bool | int | float | obj =>
      rw [cleanValue]
      trivial
  | str | arr =>
      rw [cleanValue]
      exact isTidyText_clip _
  | surrogates codes =>
      rw [cleanValue]
      rcases ofCodes_clipCodes codes with hwhole | hhalf
      · rw [hwhole]
        exact isTidyText_clip _
      · have hlength := Text.length_clipChars_le valueWidth (codes.map shownChar)
        rw [← map_clipCodes, List.length_map] at hlength
        rw [hhalf]
        refine ⟨hlength, ?_⟩
        rw [map_clipCodes]
        exact Text.isTidy_clipChars valueWidth _

theorem isTidyLevel_cleanContext (level : List (String × Json)) : IsTidyLevel (cleanContext level) where
  names f hf := by
    obtain ⟨e, -, hname, -⟩ := exists_of_mem_cleanContext hf
    rw [← hname]
    exact ⟨Text.length_clip_le keyWidth e.1, Text.isTidy_clip keyWidth e.1⟩
  texts f hf := by
    obtain ⟨e, -, -, hvalue⟩ := exists_of_mem_cleanContext hf
    rw [← hvalue]
    exact isTidyText_cleanValue e.2

theorem exists_of_cleanValue_eq_obj {v : Json} (h : cleanValue v = .obj out) :
    ∃ level, out = cleanContext level := by
  cases v with
  | obj fields =>
      rw [cleanValue] at h
      exact ⟨fields, (Json.obj.inj h).symm⟩
  | surrogates codes =>
      rw [cleanValue] at h
      exact absurd h (ofCodes_ne_obj _ out)
  | null | bool | int | float | str | arr =>
      rw [cleanValue] at h
      cases h

theorem exists_of_isLevel (h : IsLevel (cleanContext context) out) :
    ∃ level, out = cleanContext level := by
  induction h with
  | outermost => exact ⟨context, rfl⟩
  | within _ hmem ih =>
      obtain ⟨level, rfl⟩ := ih
      obtain ⟨e, -, -, hvalue⟩ := exists_of_mem_cleanContext hmem
      exact exists_of_cleanValue_eq_obj hvalue

/-! ## Lists without a text -/

variable {limits : Limits}

/-- Every list at the level has a text. -/
def ListsShown (limits : Limits) (level : List (String × Json)) : Prop :=
  ∀ f ∈ level, ∀ items, f.2 = .arr items → (Json.arr items).excess? limits 0 = none

theorem IsLevel.of_mem {inner : List (String × Json)} (hmem : (name, .obj inner) ∈ context)
    (h : IsLevel inner level) : IsLevel context level := by
  induction h with
  | outermost => exact .within .outermost hmem
  | within _ hinner ih => exact .within ih hinner

theorem listExcessOfFields?_eq_none :
    listExcessOfFields? limits level = none ↔ ∀ f ∈ level, listExcess? limits f.2 = none := by
  induction level with
  | nil => simp [listExcessOfFields?]
  | cons f level ih => rw [listExcessOfFields?, Option.or_eq_none_iff, ih, List.forall_mem_cons]

theorem listsShown_of_isLevel (h : listExcessOfFields? limits context = none)
    (hlevel : IsLevel context level) : ListsShown limits level := by
  have hnone : listExcessOfFields? limits level = none := by
    induction hlevel with
    | outermost => exact h
    | within _ hmem ih =>
        have hinner := listExcessOfFields?_eq_none.1 ih _ hmem
        rwa [listExcess?] at hinner
  intro f hf items hitems
  have hlist := listExcessOfFields?_eq_none.1 hnone f hf
  rwa [hitems, listExcess?] at hlist

theorem listExcess?_eq_none_of (v : Json)
    (hlist : ∀ items, v = .arr items → (Json.arr items).excess? limits 0 = none)
    (hlevels : ∀ fields, v = .obj fields → ∀ level, IsLevel fields level → ListsShown limits level) :
    listExcess? limits v = none := by
  induction v using parts_induction with
  | null | bool | int | float | str | surrogates => simp only [listExcess?]
  | arr items =>
      rw [listExcess?]
      exact hlist items rfl
  | obj fields ih =>
      rw [listExcess?, listExcessOfFields?_eq_none]
      intro f hf
      refine ih f hf (hlevels fields rfl fields .outermost f hf) ?_
      intro inner hinner level hlevel
      have hmem : (f.1, Json.obj inner) ∈ fields := by rwa [← hinner]
      exact hlevels fields rfl level (hlevel.of_mem hmem)

theorem listExcessOfFields?_eq_none_iff :
    listExcessOfFields? limits context = none ↔
      ∀ level, IsLevel context level → ListsShown limits level := by
  constructor
  · intro h level hlevel
    exact listsShown_of_isLevel h hlevel
  · intro h
    have hcontext : listExcess? limits (.obj context) = none :=
      listExcess?_eq_none_of (.obj context) (fun _ hlist => by cases hlist) fun _ hfields =>
        Json.obj.inj hfields ▸ h
    rwa [listExcess?] at hcontext

theorem cleaned_eq_ok : cleaned limits context = .ok out ↔
    (∀ level, IsLevel context level → ListsShown limits level) ∧ cleanContext context = out := by
  rw [cleaned, ← listExcessOfFields?_eq_none_iff]
  cases listExcessOfFields? limits context <;> simp

theorem cleanValue_ne_arr (v : Json) (items : List Json) : cleanValue v ≠ .arr items := by
  intro h
  cases v with
  | surrogates codes =>
      rw [cleanValue] at h
      exact absurd h (ofCodes_ne_arr _ items)
  | null | bool | int | float | str | arr | obj =>
      rw [cleanValue] at h
      cases h

theorem listsShown_cleanContext (limits : Limits) (level : List (String × Json)) :
    ListsShown limits (cleanContext level) := by
  intro f hf items hitems
  obtain ⟨e, -, -, hvalue⟩ := exists_of_mem_cleanContext hf
  exact absurd (hvalue.trans hitems) (cleanValue_ne_arr e.2 items)

/-- A context is cleaned if its lists, at every level, have a text, and without limits always. A cleaned
context is what is left of the context, level by level and item by item. At every level its names and texts
are tidy and not too long, and it stays as it is when it is cleaned again. -/
theorem cleaned_at_every_level (limits : Limits) (context : List (String × Json)) :
    ((∃ out, cleaned limits context = .ok out) ↔
        ∀ level, IsLevel context level → ListsShown limits level) ∧
      (∃ out, cleaned .unlimited context = .ok out) ∧
      ∀ out, cleaned limits context = .ok out →
        Cleaned (.obj context) (.obj out) ∧
          (∀ level, IsLevel out level → IsTidyLevel level) ∧
          cleaned limits out = .ok out := by
  refine ⟨?_, ?_, ?_⟩
  · simp only [cleaned_eq_ok, exists_and_left, exists_eq', and_true]
  · exact ⟨_, cleaned_eq_ok.2 ⟨fun _ _ _ _ _ _ => excess?_unlimited _, rfl⟩⟩
  · intro out hout
    obtain ⟨-, rfl⟩ := cleaned_eq_ok.1 hout
    refine ⟨cleaned_cleanContext_of fun f _ => cleaned_cleanValue f.2, ?_, ?_⟩
    · intro level hlevel
      obtain ⟨given, rfl⟩ := exists_of_isLevel hlevel
      exact isTidyLevel_cleanContext given
    · have hfixed : cleanContext (cleanContext context) = cleanContext context :=
        cleanContext_cleanContext_of fun f _ => cleanValue_cleanValue f.2
      refine cleaned_eq_ok.2 ⟨fun level hlevel => ?_, hfixed⟩
      obtain ⟨given, rfl⟩ := exists_of_isLevel hlevel
      exact listsShown_cleanContext limits given

end KeepApart.Security
