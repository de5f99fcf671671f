import Mathlib.Data.List.Sort
import KeepApart.Listing
import KeepApart.Proofs.Table

/-!
# The order of a listing

Sort keys are linearly ordered, and so they are in either direction. Sorting is stable: entries with
equal keys keep their order. So a listing of records that come in ascending order of ids stands in one
order only, by keys first and by ids among equal keys.
-/

namespace KeepApart

/-! ## Stable sorting -/

/-- Sorting keeps whatever relation earlier elements have to later ones that come with them. -/
theorem pairwise_mergeSort_of_pairwise {α : Type} {le : α → α → Bool} {R : α → α → Prop} {l : List α}
    (trans : ∀ a b c, le a b = true → le b c = true → le a c = true)
    (total : ∀ a b, (le a b || le b a) = true) (h : l.Pairwise R) :
    (l.mergeSort le).Pairwise fun a b => le a b = true ∧ (le b a = true → R a b) := by
  -- The sorted list is that of the elements with their places, which break ties.
  have hsorted := List.pairwise_mergeSort (List.zipIdxLE_trans trans) (List.zipIdxLE_total total)
    l.zipIdx
  have hperm : (l.zipIdx.mergeSort (List.zipIdxLE le)).Perm l.zipIdx := List.mergeSort_perm _ _
  have hplaces : (l.zipIdx.mergeSort (List.zipIdxLE le)).Pairwise fun x y => x.2 ≠ y.2 := by
    have hnodup : (l.zipIdx.map Prod.snd).Nodup := by
      rw [List.zipIdx_map_snd]
      exact List.nodup_range'
    exact List.pairwise_map.1 ((hperm.map Prod.snd).nodup_iff.2 hnodup)
  rw [← List.mergeSort_zipIdx, List.pairwise_map]
  refine (hsorted.and hplaces).imp_of_mem ?_
  rintro ⟨a, i⟩ ⟨b, j⟩ ha hb ⟨hle, hne⟩
  have ha' : l[i]? = some a := List.mem_zipIdx_iff_getElem?.1 (hperm.mem_iff.1 ha)
  have hb' : l[j]? = some b := List.mem_zipIdx_iff_getElem?.1 (hperm.mem_iff.1 hb)
  obtain ⟨hi, hai⟩ := List.getElem?_eq_some_iff.1 ha'
  obtain ⟨hj, hbj⟩ := List.getElem?_eq_some_iff.1 hb'
  dsimp only [List.zipIdxLE] at hle hne ⊢
  by_cases hab : le a b = true
  · refine ⟨hab, fun hba => ?_⟩
    rw [if_pos hab, if_pos hba, decide_eq_true_iff] at hle
    have hR := List.pairwise_iff_getElem.1 h i j hi hj (lt_of_le_of_ne hle hne)
    rwa [hai, hbj] at hR
  · rw [if_neg hab] at hle
    cases hle

/-! ## Keys -/

namespace Json.Rank

-- The order that `List.lex` decides is named, because lists have another one beside it.
theorem text_le_iff {a b : List Nat} :
    (text a).le (text b) = true ↔ @LE.le (List Nat) List.instLE a b := by
  rw [le, Bool.not_eq_true', List.lex_eq_false_iff_ge]

theorem number_le_iff {x y : Rat} : (number x).le (number y) = true ↔ x ≤ y := decide_eq_true_iff

theorem le_total (a b : Rank) : a.le b = true ∨ b.le a = true := by
  match a, b with
  | text a, text b =>
      rw [text_le_iff, text_le_iff]
      exact List.le_total a b
  | number x, number y =>
      rw [number_le_iff, number_le_iff]
      exact Rat.le_total
  | unordered, unordered => exact .inl rfl
  | text _, number _ | text _, unordered | number _, unordered => exact .inl rfl
  | number _, text _ | unordered, text _ | unordered, number _ => exact .inr rfl

theorem le_trans {a b c : Rank} (hab : a.le b = true) (hbc : b.le c = true) : a.le c = true := by
  cases a with
  | text a =>
      cases c with
      | text c =>
          cases b with
          | text b =>
              rw [text_le_iff] at *
              exact List.le_trans hab hbc
          | number _ | unordered => cases hbc
      | number _ | unordered => rfl
  | number x =>
      cases b with
      | number y =>
          cases c with
          | number z =>
              rw [number_le_iff] at *
              exact Rat.le_trans hab hbc
          | text _ => cases hbc
          | unordered => rfl
      | text _ => cases hab
      | unordered =>
          cases c with
          | text _ | number _ => cases hbc
          | unordered => rfl
  | unordered =>
      cases b with
      | unordered => exact hbc
      | text _ | number _ => cases hab

theorem le_antisymm {a b : Rank} (hab : a.le b = true) (hba : b.le a = true) : a = b := by
  match a, b with
  | text _, text _ =>
      rw [text_le_iff] at *
      rw [List.le_antisymm hab hba]
  | number _, number _ =>
      rw [number_le_iff] at *
      rw [Rat.le_antisymm hab hba]
  | unordered, unordered => rfl

end Json.Rank

namespace SortKey

theorem moment_le_iff {a b : Moment} : (moment a).le (moment b) = true ↔ a.micros ≤ b.micros :=
  decide_eq_true_iff

theorem le_total (a b : SortKey) : a.le b = true ∨ b.le a = true := by
  match a, b with
  | moment a, moment b =>
      rw [moment_le_iff, moment_le_iff]
      exact Int.le_total a.micros b.micros
  | detail a, detail b => exact Json.Rank.le_total a b
  | moment _, detail _ => exact .inl rfl
  | detail _, moment _ => exact .inr rfl

theorem le_trans {a b c : SortKey} (hab : a.le b = true) (hbc : b.le c = true) :
    a.le c = true := by
  match a, b, c with
  | moment _, moment _, moment _ =>
      rw [moment_le_iff] at *
      exact Int.le_trans hab hbc
  | detail _, detail _, detail _ => exact Json.Rank.le_trans hab hbc
  | moment _, _, detail _ => rfl

theorem le_antisymm {a b : SortKey} (hab : a.le b = true) (hba : b.le a = true) : a = b := by
  match a, b with
  | moment a, moment b =>
      rw [moment_le_iff] at *
      have hmicros : a.micros = b.micros := Int.le_antisymm hab hba
      cases a
      cases b
      cases hmicros
      rfl
  | detail _, detail _ => rw [Json.Rank.le_antisymm hab hba]

end SortKey

namespace SortDirection

variable {d : SortDirection} {a b c : SortKey}

theorem le_total (d : SortDirection) (a b : SortKey) : (d.le a b || d.le b a) = true := by
  rw [Bool.or_eq_true]
  cases d with
  | ascending => exact SortKey.le_total a b
  | descending => exact SortKey.le_total b a

theorem le_trans (hab : d.le a b = true) (hbc : d.le b c = true) : d.le a c = true := by
  cases d with
  | ascending => exact SortKey.le_trans hab hbc
  | descending => exact SortKey.le_trans hbc hab

theorem le_antisymm (hab : d.le a b = true) (hba : d.le b a = true) : a = b := by
  cases d with
  | ascending => exact SortKey.le_antisymm hab hba
  | descending => exact SortKey.le_antisymm hba hab

end SortDirection

/-! ## Entries -/

/-- The key of an entry comes before that of another one, or the keys are equal and its id is the
smaller one. -/
def Entry.Precedes (o : ListOptions) (a b : Entry) : Prop :=
  (o.order.le (a.key o.field) (b.key o.field) = true ∧ a.key o.field ≠ b.key o.field) ∨
    (a.key o.field = b.key o.field ∧ a.record.id < b.record.id)

theorem Entry.Precedes.asymm {o : ListOptions} {a b : Entry} (hab : a.Precedes o b) :
    ¬ b.Precedes o a := by
  rcases hab with ⟨hle, hne⟩ | ⟨heq, hid⟩
  · rintro (⟨hle', -⟩ | ⟨heq', -⟩)
    · exact hne (SortDirection.le_antisymm hle hle')
    · exact hne heq'.symm
  · rintro (⟨-, hne'⟩ | ⟨-, hid'⟩)
    · exact hne' heq.symm
    · exact Register.id_lt_asymm hid hid'

theorem ListOptions.pairwise_apply (o : ListOptions) {entries : List Entry}
    (h : entries.Pairwise fun a b => a.record.id < b.record.id) :
    (o.apply entries).Pairwise (Entry.Precedes o) := by
  have hkept : (entries.filter fun e => o.keeps e.record).Pairwise fun a b =>
      a.record.id < b.record.id := h.sublist List.filter_sublist
  have hstable : (o.apply entries).Pairwise fun a b =>
      o.order.le (a.key o.field) (b.key o.field) = true ∧
        (o.order.le (b.key o.field) (a.key o.field) = true → a.record.id < b.record.id) :=
    pairwise_mergeSort_of_pairwise (fun _ _ _ => SortDirection.le_trans)
      (fun _ _ => o.order.le_total _ _) hkept
  refine hstable.imp ?_
  rintro a b ⟨hle, hid⟩
  by_cases hkeys : a.key o.field = b.key o.field
  · have hge : o.order.le (b.key o.field) (a.key o.field) = true := by rwa [hkeys] at hle ⊢
    exact .inr ⟨hkeys, hid hge⟩
  · exact .inl ⟨hle, hkeys⟩

/-- There is one such order only. -/
theorem ListOptions.apply_eq {o : ListOptions} {entries out : List Entry}
    (h : entries.Pairwise fun a b => a.record.id < b.record.id)
    (hperm : out.Perm (entries.filter fun e => o.keeps e.record))
    (hout : out.Pairwise (Entry.Precedes o)) : o.apply entries = out :=
  ((List.mergeSort_perm _ _).trans hperm.symm).eq_of_pairwise
    (fun _ _ _ _ hab hba => absurd hba hab.asymm) (o.pairwise_apply h) hout

end KeepApart
