import KeepApart.Proofs.Closure
import KeepApart.Proofs.Listing.Outcome

/-!
# Filtering and sorting

A listing is made of the entries that are wanted, in the order of one field and one direction. Entries
that do not differ in that field stay in the order in which they came, whatever the direction, so a
descending listing is not an ascending one read backwards. It does not matter whether the entries are
filtered before they are sorted, afterwards or both.
-/

namespace KeepApart

/-! ## Stable sorting and filters -/

section Stable

variable {α : Type} {le : α → α → Bool} {p : α → Bool} {l : List α}
variable (trans : ∀ a b c, le a b = true → le b c = true → le a c = true)
variable (total : ∀ a b, (le a b || le b a) = true)
include trans total

/-- The first element comes behind those that may not stand behind it. -/
theorem mergeSort_cons_eq (a : α) (l : List α) : (a :: l).mergeSort le =
    (l.mergeSort le).filter (fun b => !le a b) ++ a :: (l.mergeSort le).filter (le a) := by
  obtain ⟨before, after, hcons, hrest, hbefore⟩ := List.mergeSort_cons trans total a l
  have hafter : ∀ b ∈ after, le a b = true := by
    have hsorted := List.pairwise_mergeSort trans total (a :: l)
    rw [hcons, List.pairwise_append, List.pairwise_cons] at hsorted
    exact hsorted.2.1.1
  have hfront : before.filter (fun b => !le a b) = before := List.filter_eq_self.2 hbefore
  have hfront' : before.filter (le a) = [] :=
    List.filter_eq_nil_iff.2 fun b hb => by simpa using hbefore b hb
  have hback : after.filter (fun b => !le a b) = [] :=
    List.filter_eq_nil_iff.2 fun b hb => by simpa using hafter b hb
  have hback' : after.filter (le a) = after := List.filter_eq_self.2 hafter
  rw [hcons, hrest, List.filter_append, List.filter_append, hfront, hfront', hback, hback',
    List.append_nil, List.nil_append]

/-- What is left of the sorted list is the sorted list of what is left. -/
theorem mergeSort_filter (p : α → Bool) (l : List α) :
    (l.filter p).mergeSort le = (l.mergeSort le).filter p := by
  induction l with
  | nil => rw [List.mergeSort_nil, List.filter_nil, List.mergeSort_nil]
  | cons a l ih =>
      by_cases ha : p a = true
      · rw [List.filter_cons_of_pos ha, mergeSort_cons_eq trans total, mergeSort_cons_eq trans total,
          ih, List.filter_append, List.filter_cons_of_pos ha, List.filter_comm p (le a),
          List.filter_comm p fun b => !le a b]
      · obtain ⟨before, after, hcons, hrest, -⟩ := List.mergeSort_cons trans total a l
        rw [List.filter_cons_of_neg ha, ih, hcons, hrest, List.filter_append, List.filter_append,
          List.filter_cons_of_neg ha]

/-- Elements among which anything may stand anywhere stay in their order. -/
theorem filter_mergeSort (h : ∀ a ∈ l, ∀ b ∈ l, p a = true → p b = true → le a b = true) :
    (l.mergeSort le).filter p = l.filter p := by
  have htied : (l.filter p).Pairwise fun a b => le a b = true := by
    apply List.pairwise_of_forall_mem_list
    intro a ha b hb
    rw [List.mem_filter] at ha hb
    exact h a ha.1 b hb.1 ha.2 hb.2
  rw [← mergeSort_filter trans total, List.mergeSort_of_pairwise htied]

end Stable

/-! ## Entries in their order -/

namespace Entry

variable {a b : Entry} {f : SortField}

theorem not_forbids_of_le {d : SortDirection} (ha : a.prisoner.IsOfTexts) (hb : b.prisoner.IsOfTexts)
    (h : d.le (a.key f) (b.key f) = true) : ¬ d.Forbids f a b := by
  rw [key_eq (.inr ha), key_eq (.inr hb)] at h
  cases d with
  | ascending => exact SortKey.not_liftRel_of_le h
  | descending => exact SortKey.not_liftRel_of_le h

theorem le_of_value_eq {d : SortDirection} (ha : a.prisoner.IsOfTexts) (hb : b.prisoner.IsOfTexts)
    (h : a.value f = b.value f) : d.le (a.key f) (b.key f) = true := by
  rw [key_eq (.inr ha), key_eq (.inr hb), h]
  exact (Bool.or_self _).symm.trans (d.le_total _ _)

end Entry

/-! ## The listing -/

namespace ListOptions

variable {o : ListOptions} {entries out : List Entry}

instance (o : ListOptions) : DecidablePred o.Wants := fun _ =>
  inferInstanceAs (Decidable (_ ∨ _))

/-- The listing has the entries that are wanted, none stands behind one that it should stand before, and
those with one and the same value stand as they came. -/
structure Arranges (o : ListOptions) (entries out : List Entry) : Prop where
  perm : out.Perm (entries.filter fun e => o.Wants e.record)
  ordered : out.Pairwise fun a b => ¬ o.order.Forbids o.field a b
  stable : ∀ v, out.filter (fun e => e.value o.field = v) =
    (entries.filter fun e => o.Wants e.record).filter fun e => e.value o.field = v

theorem filter_wants (o : ListOptions) (entries : List Entry) :
    (entries.filter fun e => o.Wants e.record) = entries.filter fun e => o.keeps e.record :=
  List.filter_congr fun _ _ => Bool.eq_iff_iff.2 (decide_eq_true_iff.trans keeps_iff.symm)

theorem le_trans (o : ListOptions) (a b c : Entry) (hab : o.order.le (a.key o.field) (b.key o.field) = true)
    (hbc : o.order.le (b.key o.field) (c.key o.field) = true) :
    o.order.le (a.key o.field) (c.key o.field) = true :=
  SortDirection.le_trans hab hbc

theorem le_total (o : ListOptions) (a b : Entry) :
    (o.order.le (a.key o.field) (b.key o.field) || o.order.le (b.key o.field) (a.key o.field)) = true :=
  o.order.le_total _ _

theorem pairwise_le_sort (o : ListOptions) (entries : List Entry) :
    (o.sort entries).Pairwise fun a b => o.order.le (a.key o.field) (b.key o.field) = true :=
  List.pairwise_mergeSort o.le_trans o.le_total entries

theorem arranges_apply (h : ∀ e ∈ entries, e.prisoner.IsOfTexts) :
    o.Arranges entries (o.apply entries) := by
  have hperm : (o.apply entries).Perm (entries.filter fun e => o.Wants e.record) := by
    rw [filter_wants]
    exact o.apply_perm entries
  have htexts : ∀ e ∈ entries.filter fun e => o.Wants e.record, e.prisoner.IsOfTexts := fun e he =>
    h e (List.mem_filter.1 he).1
  refine ⟨hperm, ?_, ?_⟩
  · refine (o.pairwise_le_sort _).imp_of_mem ?_
    intro a b ha hb hle
    exact Entry.not_forbids_of_le (htexts a (hperm.mem_iff.1 ha)) (htexts b (hperm.mem_iff.1 hb)) hle
  · intro v
    rw [apply, ← filter_wants]
    apply filter_mergeSort o.le_trans o.le_total
    intro a ha b hb hav hbv
    exact Entry.le_of_value_eq (htexts a ha) (htexts b hb)
      ((of_decide_eq_true hav).trans (of_decide_eq_true hbv).symm)

theorem listed_of_texts (h : ∀ e ∈ entries, e.prisoner.IsOfTexts) :
    o.listed entries = .ok (o.apply entries) :=
  if_pos (canSort_of_texts h)

/-! ## When records were closed -/

def ClosesLater (r : Record) : Prop :=
  r.closureConsistent = true ∧ ∀ t ∈ r.closedAt, Moment.earliest < t

/-- May the second record stand behind the first one? Open records come before closed ones, and after
them when the order is descending. -/
def Separates (o : ListOptions) (r q : Record) : Prop :=
  match o.order with
  | .ascending => r.isClosed = true → q.isClosed = true
  | .descending => r.isOpen = true → q.isOpen = true

theorem before_of_closed {a b : Entry} (ha : ClosesLater a.record) (hb : ClosesLater b.record)
    (hopen : a.record.isOpen = true) (hclosed : b.record.isClosed = true) : a.Before .whenClosed b := by
  have hnone : a.record.closedAt = none := by
    rw [Record.isOpen, Bool.not_eq_true'] at hopen
    cases Record.hasWholeClosure_of_consistent ha.1 with
    | closed flag =>
        rw [hopen] at flag
        cases flag
    | opened _ _ _ moment => exact moment
  have hsome : b.record.closedAt.isSome = true := by
    cases Record.hasWholeClosure_of_consistent hb.1 with
    | closed _ _ _ moment => exact moment
    | opened flag =>
        rw [hclosed] at flag
        cases flag
  obtain ⟨t, ht⟩ := Option.isSome_iff_exists.1 hsome
  rw [Entry.Before, Entry.value, Entry.value, hnone, ht]
  exact .inl (hb.2 t ht)

theorem Arranges.separates (harranges : o.Arranges entries out) (hfield : o.field = .whenClosed)
    (h : ∀ e ∈ out, ClosesLater e.record) : out.Pairwise fun a b => o.Separates a.record b.record := by
  refine harranges.ordered.imp_of_mem ?_
  intro a b ha hb hordered
  rw [hfield] at hordered
  unfold ListOptions.Separates
  generalize o.order = d at hordered ⊢
  cases d with
  | ascending =>
      intro hclosed
      by_contra hopen
      exact hordered (before_of_closed (h b hb) (h a ha) (by simpa [Record.isOpen] using hopen) hclosed)
  | descending =>
      intro hopen
      by_contra hclosed
      exact hordered (before_of_closed (h a ha) (h b hb) hopen (by simpa [Record.isOpen] using hclosed))

/-! ## Filtering once more -/

theorem filter_apply (o : ListOptions) (entries : List Entry) :
    ((o.apply entries).filter fun e => o.Wants e.record) = o.apply entries := by
  rw [filter_wants]
  exact List.filter_eq_self.2 fun e he =>
    (List.mem_filter.1 ((o.apply_perm entries).mem_iff.1 he)).2

theorem apply_filter (o : ListOptions) (entries : List Entry) :
    o.apply (entries.filter fun e => o.Wants e.record) = o.apply entries := by
  rw [filter_wants, apply, apply, List.filter_filter]
  simp only [Bool.and_self]

theorem apply_apply (o : ListOptions) (entries : List Entry) :
    o.apply (o.apply entries) = o.apply entries := by
  have hkept := o.filter_apply entries
  rw [filter_wants] at hkept
  calc o.apply (o.apply entries)
      = o.sort (o.apply entries) := by rw [apply, hkept]
    _ = o.apply entries := List.mergeSort_of_pairwise (o.pairwise_le_sort _)

def unfiltered (o : ListOptions) : ListOptions := { o with wantOpen := true, wantClosed := true }

theorem filter_apply_unfiltered (o : ListOptions) (entries : List Entry) :
    ((o.unfiltered.apply entries).filter fun e => o.Wants e.record) = o.apply entries := by
  have hall : (entries.filter fun e => o.unfiltered.keeps e.record) = entries :=
    List.filter_eq_self.2 fun _ _ => rfl
  have hsort : o.unfiltered.apply entries = o.sort entries := by
    rw [apply, hall]
    rfl
  rw [hsort, filter_wants]
  exact (mergeSort_filter o.le_trans o.le_total _ entries).symm

theorem apply_texts (h : ∀ e ∈ entries, e.prisoner.IsOfTexts) :
    ∀ e ∈ o.apply entries, e.prisoner.IsOfTexts := fun e he =>
  h e (List.mem_filter.1 ((o.apply_perm entries).mem_iff.1 he)).1

/-- Entries whose details are texts can be listed in every order. Records that were closed stand on one
side of those that are open when they are sorted by that time. It does not matter when entries are
filtered, nor how often. -/
theorem filters_and_sorts (o : ListOptions) (h : ∀ e ∈ entries, e.prisoner.IsOfTexts) :
    ∃ out, o.listed entries = .ok out ∧ o.Arranges entries out ∧
      (o.field = .whenClosed → (∀ e ∈ out, ClosesLater e.record) →
        out.Pairwise fun a b => o.Separates a.record b.record) ∧
      o.listed (entries.filter fun e => o.Wants e.record) = .ok out ∧
      (∃ all, o.unfiltered.listed entries = .ok all ∧ (all.filter fun e => o.Wants e.record) = out) ∧
      (out.filter fun e => o.Wants e.record) = out ∧ o.listed out = .ok out := by
  have harranges : o.Arranges entries (o.apply entries) := arranges_apply h
  refine ⟨o.apply entries, listed_of_texts h, harranges, harranges.separates, ?_, ?_, ?_, ?_⟩
  · rw [listed_of_texts fun e he => h e (List.mem_filter.1 he).1, apply_filter]
  · exact ⟨_, listed_of_texts h, o.filter_apply_unfiltered entries⟩
  · exact o.filter_apply entries
  · rw [listed_of_texts (apply_texts h), apply_apply]

/-- Of three entries the one in the middle has no last name, and its record was closed. By last names the
other two stay in their order when it is descending, and by the time of closing they stand behind. -/
theorem filters_and_sorts_namesakes :
    let row (r : Record) (lastName : Json) : Entry :=
      ⟨r, ⟨.str "B2", .null, lastName, .null, .null, .null⟩⟩
    let closed : Record := { Merge.plain 2 "A1" "B2" with
      isClosed := true, closedBy := some "USER", closedReason := some "Moved", closedAt := some ⟨1⟩ }
    let first := row (Merge.plain 1 "A1" "B2") (.str "Bell")
    let last := row (Merge.plain 3 "A1" "B2") (.str "Bell")
    let entries := [first, row closed .null, last]
    let byName : ListOptions :=
      { wantClosed := true, sortBy := some .lastName, direction := some .descending }
    let byClosing : ListOptions := { wantClosed := true, sortBy := some .whenClosed }
    (∀ e ∈ entries, e.prisoner.IsOfTexts) ∧
      (∃ out, byName.listed entries = .ok out ∧ out.Pairwise (fun a b => ¬ a.Before .lastName b) ∧
        (out.filter fun e => e.value .lastName = .inr (Json.str "Bell").codes) = [first, last]) ∧
      ∃ out, byClosing.listed entries = .ok out ∧ (∀ e ∈ out, ClosesLater e.record) ∧
        out.Pairwise fun a b => a.record.isOpen = true → b.record.isOpen = true := by
  intro row closed first last entries byName byClosing
  have htexts : ∀ e ∈ entries, e.prisoner.IsOfTexts := by
    simp [entries, first, last, row, Prisoner.IsOfTexts, Json.isTextual]
  have hlater : ∀ e ∈ entries, ClosesLater e.record := by
    have hplain (id : Int) : ClosesLater (Merge.plain id "A1" "B2") := ⟨rfl, nofun⟩
    have hclosed : ClosesLater closed := by
      refine ⟨rfl, ?_⟩
      rintro t ⟨⟩
      decide
    simp [entries, first, last, row, hplain, hclosed]
  obtain ⟨out, hlisted, harranges, -⟩ := filters_and_sorts byName htexts
  obtain ⟨out', hlisted', harranges', hseparates, -⟩ := filters_and_sorts byClosing htexts
  have hout : ∀ e ∈ out', ClosesLater e.record := fun e he =>
    hlater e (List.mem_filter.1 (harranges'.perm.mem_iff.1 he)).1
  exact ⟨htexts, ⟨out, hlisted, harranges.ordered, harranges.stable (.inr (Json.str "Bell").codes)⟩,
    out', hlisted', hout, hseparates rfl hout⟩

end ListOptions

end KeepApart
