import KeepApart.Json.Printer
import KeepApart.Proofs.Digits
import KeepApart.Proofs.Json.Fields

/-!
# The characters of JSON text

Whatever the text of a value has beyond printable ASCII comes from a text or a name in the value, and of
these all such characters are there but those below U+0020.
-/

namespace KeepApart

variable {c d : Char} {s t : List Char}

namespace Text

/-- A character of printable ASCII. -/
def isPlain (c : Char) : Bool := 0x20 ≤ c.toNat && c.toNat ≤ 0x7E

theorem isPlain_iff : isPlain c = true ↔ 0x20 ≤ c.toNat ∧ c.toNat ≤ 0x7E := by
  simp [isPlain]

theorem ne_of_isPlain (hc : isPlain c = false) (hd : isPlain d = true) : c ≠ d := by
  rintro rfl
  rw [hc] at hd
  cases hd

theorem isPlain_of_isDigit (hc : c.isDigit = true) : isPlain c = true := by
  have hrange : 48 ≤ c.toNat ∧ c.toNat ≤ 57 := Char.isDigit_iff_toNat.1 hc
  exact isPlain_iff.2 ⟨by omega, by omega⟩

theorem not_mem_of_all (hc : isPlain c = false) (hs : s.all isPlain = true) : c ∉ s := by
  intro hmem
  have hplain : isPlain c = true := List.all_eq_true.1 hs c hmem
  rw [hc] at hplain
  cases hplain

theorem all_isPlain_toDigits (n : Nat) : (Nat.toDigits 10 n).all isPlain = true :=
  List.all_eq_true.2 fun _ hc =>
    isPlain_of_isDigit (Nat.isDigit_of_mem_toDigits (by decide) (by decide) hc)

theorem all_isPlain_append (hs : s.all isPlain = true) (ht : t.all isPlain = true) :
    (s ++ t).all isPlain = true := by
  rw [List.all_append, hs, ht, Bool.and_self]

theorem all_isPlain_toList_append {a b : String} (ha : a.toList.all isPlain = true)
    (hb : b.toList.all isPlain = true) : (a ++ b).toList.all isPlain = true := by
  rw [String.toList_append]
  exact all_isPlain_append ha hb

theorem all_isPlain_ofList (hs : s.all isPlain = true) :
    (String.ofList s).toList.all isPlain = true := by
  rwa [String.toList_ofList]

theorem all_isPlain_zeros (n : Nat) : (List.replicate n '0').all isPlain = true := by
  rw [List.all_eq_true]
  intro c hc
  rw [List.eq_of_mem_replicate hc]
  decide

theorem isPlain_hexDigit : ∀ d < 16, isPlain (hexDigit d) = true := by decide

theorem all_isPlain_hex (width n : Nat) : (hex width n).all isPlain = true := by
  induction width generalizing n with
  | zero => rfl
  | succ width ih =>
      refine all_isPlain_append (ih (n / 16)) ?_
      rw [List.all_cons, isPlain_hexDigit _ (Nat.mod_lt n (by decide))]
      rfl

theorem all_isPlain_toString (n : Int) : (toString n).toList.all isPlain = true := by
  rw [Schema.toList_toString]
  cases n with
  | ofNat k => exact all_isPlain_toDigits k
  | negSucc k =>
      rw [Schema.written, List.all_cons, all_isPlain_toDigits (k + 1)]
      rfl

end Text

open Text

namespace Decimal.Layout

variable (l : Layout)

theorem all_isPlain_exponentText (e : Int) : (l.exponentText e).toList.all isPlain = true := by
  refine all_isPlain_toList_append ?_ (all_isPlain_ofList ?_)
  · split <;> decide
  · rw [List.leftpad]
    exact all_isPlain_append (all_isPlain_zeros _) (all_isPlain_toDigits _)

theorem all_isPlain_decimal (d : Scientific) : (l.decimal d).toList.all isPlain = true := by
  have hdigits := all_isPlain_toDigits d.digits
  have htake (n : Nat) : ((Nat.toDigits 10 d.digits).take n).all isPlain = true :=
    List.all_eq_true.2 fun c hc => List.all_eq_true.1 hdigits c (List.mem_of_mem_take hc)
  have hdrop (n : Nat) : ((Nat.toDigits 10 d.digits).drop n).all isPlain = true :=
    List.all_eq_true.2 fun c hc => List.all_eq_true.1 hdigits c (List.mem_of_mem_drop hc)
  unfold decimal
  dsimp only
  split
  · split
    · exact all_isPlain_toList_append
        (all_isPlain_ofList (all_isPlain_append hdigits (all_isPlain_zeros _))) (by decide)
    · split
      · exact all_isPlain_toList_append (by decide)
          (all_isPlain_ofList (all_isPlain_append (all_isPlain_zeros _) hdigits))
      · exact all_isPlain_toList_append
          (all_isPlain_toList_append (all_isPlain_ofList (htake _)) (by decide))
          (all_isPlain_ofList (hdrop _))
  · refine all_isPlain_toList_append (all_isPlain_toList_append (all_isPlain_toList_append
      (all_isPlain_ofList (htake 1)) ?_) (by decide)) (l.all_isPlain_exponentText _)
    split
    · split <;> decide
    · exact all_isPlain_toList_append (by decide) (all_isPlain_ofList (hdrop 1))

theorem all_isPlain_float (hnan : l.nan.toList.all isPlain = true)
    (hinfinity : l.infinity.toList.all isPlain = true) (x : Float) :
    (l.float x).toList.all isPlain = true := by
  have hsign : (if signBit x then "-" else "").toList.all isPlain = true := by
    split <;> decide
  unfold float
  dsimp only
  split
  · exact hnan
  · split
    · exact all_isPlain_toList_append hsign hinfinity
    · split
      · exact all_isPlain_toList_append hsign (by decide)
      · exact all_isPlain_toList_append hsign (l.all_isPlain_decimal _)

end Decimal.Layout

namespace Json

/-! ## Texts -/

theorem escapeLetter?_some {l : Char} (h : escapeLetter? d = some l) :
    isPlain l = true ∧ (isPlain d = true ∨ d.toNat < 0x20) := by
  unfold escapeLetter? at h
  split at h <;> cases h <;> decide

theorem all_isPlain_unit (n : Nat) : ('\\' :: 'u' :: hex 4 n).all isPlain = true := by
  rw [List.all_cons, List.all_cons, all_isPlain_hex 4 n]
  rfl

theorem mem_escapeChar (hc : isPlain c = false) : c ∈ escapeChar d ↔ c = d ∧ 0x20 ≤ c.toNat := by
  unfold escapeChar
  split
  · rename_i l hl
    obtain ⟨hletter, hd⟩ := escapeLetter?_some hl
    constructor
    · intro hmem
      have hplain : ['\\', l].all isPlain = true := by
        rw [List.all_cons, List.all_cons, hletter]
        rfl
      exact absurd hmem (not_mem_of_all hc hplain)
    · rintro ⟨rfl, hvisible⟩
      rcases hd with hd | hd
      · exact absurd hd (by simp [hc])
      · omega
  · split
    · rename_i hcontrol
      constructor
      · intro hmem
        exact absurd hmem (not_mem_of_all hc (all_isPlain_unit d.toNat))
      · rintro ⟨rfl, hvisible⟩
        omega
    · rename_i hvisible
      rw [List.mem_singleton]
      constructor
      · rintro rfl
        exact ⟨rfl, by omega⟩
      · exact And.left

theorem mem_enclosed (hc : isPlain c = false) {left right : Char} (hleft : isPlain left = true)
    (hright : isPlain right = true) : c ∈ left :: s ++ [right] ↔ c ∈ s := by
  simp [ne_of_isPlain hc hleft, ne_of_isPlain hc hright]

theorem mem_renderText (hc : isPlain c = false) (s : String) :
    c ∈ renderText s ↔ c ∈ s.toList ∧ 0x20 ≤ c.toNat := by
  rw [renderText, mem_enclosed hc (by decide) (by decide), List.mem_flatMap]
  simp only [mem_escapeChar hc]
  constructor
  · rintro ⟨d, hd, rfl, hvisible⟩
    exact ⟨hd, hvisible⟩
  · rintro ⟨hmem, hvisible⟩
    exact ⟨c, hmem, rfl, hvisible⟩

theorem mem_renderCodes (hc : isPlain c = false) (codes : List Nat) :
    c ∈ renderCodes codes ↔
      (∃ code ∈ codes, isSurrogate code = false ∧ Char.ofNat code = c) ∧ 0x20 ≤ c.toNat := by
  have hcode (code : Nat) :
      c ∈ (if isSurrogate code then '\\' :: 'u' :: Text.hex 4 code else escapeChar (Char.ofNat code)) ↔
        (isSurrogate code = false ∧ Char.ofNat code = c) ∧ 0x20 ≤ c.toNat := by
    split
    · rename_i hsurrogate
      have hnot := not_mem_of_all hc (all_isPlain_unit code)
      simp [hnot, hsurrogate]
    · rename_i hwhole
      rw [mem_escapeChar hc, Bool.eq_false_iff.2 hwhole, eq_comm (a := c)]
      simp
  rw [renderCodes, mem_enclosed hc (by decide) (by decide), List.mem_flatMap]
  simp only [hcode]
  grind

/-! ## Values -/

/-- The character stands in a text of the value or in a name. -/
inductive Holds (c : Char) : Json → Prop
  | str {s : String} : c ∈ s.toList → Holds c (.str s)
  | surrogates {codes : List Nat} {code : Nat} :
    code ∈ codes → isSurrogate code = false → Char.ofNat code = c → Holds c (.surrogates codes)
  | item {items : List Json} {v : Json} : v ∈ items → Holds c v → Holds c (.arr items)
  | name {fields : List (String × Json)} {f : String × Json} :
    f ∈ fields → c ∈ f.1.toList → Holds c (.obj fields)
  | value {fields : List (String × Json)} {f : String × Json} :
    f ∈ fields → Holds c f.2 → Holds c (.obj fields)

theorem holds_str {s : String} : Holds c (.str s) ↔ c ∈ s.toList := by
  constructor
  · intro h
    cases h with
    | str h => exact h
  · exact .str

theorem holds_surrogates {codes : List Nat} : Holds c (.surrogates codes) ↔
    ∃ code ∈ codes, isSurrogate code = false ∧ Char.ofNat code = c := by
  constructor
  · intro h
    cases h with
    | surrogates hmem hwhole hcode => exact ⟨_, hmem, hwhole, hcode⟩
  · rintro ⟨code, hmem, hwhole, hcode⟩
    exact .surrogates hmem hwhole hcode

theorem holds_arr {items : List Json} : Holds c (.arr items) ↔ ∃ v ∈ items, Holds c v := by
  constructor
  · intro h
    cases h with
    | item hv h => exact ⟨_, hv, h⟩
  · rintro ⟨v, hv, h⟩
    exact .item hv h

theorem holds_obj {fields : List (String × Json)} :
    Holds c (.obj fields) ↔ ∃ f ∈ fields, c ∈ f.1.toList ∨ Holds c f.2 := by
  constructor
  · intro h
    cases h with
    | name hf h => exact ⟨_, hf, .inl h⟩
    | value hf h => exact ⟨_, hf, .inr h⟩
  · rintro ⟨f, hf, h | h⟩
    · exact .name hf h
    · exact .value hf h

variable {gap : List Char}

theorem mem_renderItems (hc : isPlain c = false) (hgap : c ∉ gap) (items : List Json) :
    c ∈ renderItems gap items ↔ ∃ v ∈ items, c ∈ renderChars gap v := by
  have hcomma : c ≠ ',' := ne_of_isPlain hc (by decide)
  induction items with
  | nil => simp [renderItems]
  | cons v rest ih =>
      rw [renderItems, List.mem_append, List.exists_mem_cons_iff]
      refine or_congr_right (Iff.trans ?_ ih)
      cases rest with
      | nil => simp [renderItems]
      | cons w rest => simp [hcomma, hgap]

theorem mem_renderFields (hc : isPlain c = false) (hgap : c ∉ gap) (fields : List (String × Json)) :
    c ∈ renderFields gap fields ↔ ∃ f ∈ fields, c ∈ renderText f.1 ∨ c ∈ renderChars gap f.2 := by
  have hcomma : c ≠ ',' := ne_of_isPlain hc (by decide)
  have hcolon : c ≠ ':' := ne_of_isPlain hc (by decide)
  induction fields with
  | nil => simp [renderFields]
  | cons f rest ih =>
      obtain ⟨name, v⟩ := f
      have hfield : c ∈ renderText name ++ ':' :: gap ++ renderChars gap v ↔
          c ∈ renderText name ∨ c ∈ renderChars gap v := by
        simp [hcolon, hgap]
      rw [renderFields, List.mem_append, hfield, List.exists_mem_cons_iff]
      refine or_congr_right (Iff.trans ?_ ih)
      cases rest with
      | nil => simp [renderFields]
      | cons g rest => simp [hcomma, hgap]

/-- What the text of a value has beyond printable ASCII and what its gaps have. -/
theorem mem_renderChars (hc : isPlain c = false) (hgap : c ∉ gap) (v : Json) :
    c ∈ renderChars gap v ↔ Holds c v ∧ 0x20 ≤ c.toNat := by
  have hwithout {v : Json} {s : List Char} (hs : s.all isPlain = true) (hv : ¬ Holds c v) :
      c ∈ s ↔ Holds c v ∧ 0x20 ≤ c.toNat :=
    iff_of_false (not_mem_of_all hc hs) fun h => hv h.1
  induction v using parts_induction with
  | null =>
      rw [renderChars]
      exact hwithout (by decide) (by rintro ⟨⟩)
  | bool b =>
      rw [renderChars]
      cases b
      · exact hwithout (by decide) (by rintro ⟨⟩)
      · exact hwithout (by decide) (by rintro ⟨⟩)
  | int n =>
      rw [renderChars]
      exact hwithout (all_isPlain_toString n) (by rintro ⟨⟩)
  | float x =>
      rw [renderChars]
      exact hwithout (numberLayout.all_isPlain_float (by decide) (by decide) x) (by rintro ⟨⟩)
  | str s =>
      rw [renderChars, mem_renderText hc, holds_str]
  | surrogates codes =>
      rw [renderChars, mem_renderCodes hc, holds_surrogates]
  | arr items ih =>
      rw [renderChars, mem_enclosed hc (by decide) (by decide), mem_renderItems hc hgap, holds_arr]
      grind
  | obj fields ih =>
      rw [renderChars, mem_enclosed hc (by decide) (by decide), mem_renderFields hc hgap, holds_obj]
      simp only [mem_renderText hc]
      grind

end Json

end KeepApart
