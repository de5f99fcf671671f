import KeepApart.Proofs.Action
import KeepApart.Query

/-!
# Listing a prisoner's records

A listing asks the directory once, for everybody on the records that it keeps. When all of them are
known it succeeds, and it shows each record once beside the prisoner opposite. Sorting by a time is
always possible and only changes the order.
-/

namespace KeepApart

open KeepApart.Action

variable {s t : Session} {found : Found} {number : String} {r : Record}

/-- A record that involves a prisoner has another one on it. -/
theorem Record.exists_other? (h : r.involves number = true) :
    ∃ other, r.other? number = some other ∧ r.involves other = true := by
  unfold other?
  by_cases hfirst : number = r.firstNumber
  · rw [if_pos hfirst]
    exact ⟨_, rfl, involves_iff.2 (.inr rfl)⟩
  · have hsecond : number = r.secondNumber := by
      rcases involves_iff.1 h with h | h
      · exact absurd h.symm hfirst
      · exact h.symm
    rw [if_neg hfirst, if_pos hsecond]
    exact ⟨_, rfl, involves_iff.2 (.inl rfl)⟩

theorem mem_askedNumbers {numbers : List String} : number ∈ askedNumbers numbers ↔ number ∈ numbers := by
  rw [askedNumbers, List.mem_mergeSort, List.mem_eraseDups]

theorem askedNumbers_of_sorted {numbers : List String}
    (h : numbers.eraseDups.Pairwise fun a b => Rejection.textLE a b = true) :
    askedNumbers numbers = numbers.eraseDups :=
  List.mergeSort_of_pairwise h

def Prisoner.plain (number prison : String) : Prisoner :=
  ⟨.str number, .str "JOHN", .str "SMITH", .str prison, .null, .null⟩

namespace Directory

variable {d : Directory} {numbers : List String}

theorem isSome_of_search (h : d.search numbers = .ok found) (hn : number ∈ numbers) :
    (found.get? number).isSome = true := by
  have hasked : number ∈ askedNumbers numbers := mem_askedNumbers.2 hn
  unfold search at h
  dsimp only at h
  split at h
  · rename_i hempty
    rw [List.isEmpty_iff.1 hempty] at hasked
    cases hasked
  · obtain ⟨found', -, h⟩ := except_bind_eq_ok.1 h
    split at h
    · rename_i hknown
      obtain rfl := Except.ok.inj h
      have hall := List.filter_eq_nil_iff.1 (List.isEmpty_iff.1 hknown) number hasked
      simpa [Option.isSome_iff_ne_none] using hall
    · cases h

/-- The directory answers when it is asked for any of these people. -/
def Knows (d : Directory) (people : String → Prop) : Prop :=
  ∀ numbers, (∀ n ∈ numbers, people n) → ∃ found, d.search numbers = .ok found

/-- A directory that tells of all these prisoners each time. -/
def of (people : List Prisoner) : Directory where
  url := ""
  reply _ := .answer 200 "OK" (.ok (.arr (people.map fun p => .obj [("prisonerNumber", p.number),
    ("firstName", p.firstName), ("lastName", p.lastName), ("prisonId", p.prisonId)])))

def everybody : Directory where
  url := ""
  reply asked :=
    .answer 200 "OK" (.ok (.arr (asked.map fun n => .obj [("prisonerNumber", .str n)])))

theorem exists_foldlM_addEntry (asked : List String) (found : Found) :
    ∃ found', (asked.map fun n => Json.obj [("prisonerNumber", .str n)]).foldlM
        Found.addEntry found = .ok found' ∧
      ∀ n, n ∈ asked ∨ (found.get? n).isSome = true → (found'.get? n).isSome = true := by
  induction asked generalizing found with
  | nil => exact ⟨found, rfl, by simp⟩
  | cons m asked ih =>
      let p : Prisoner := ⟨.str m, .str "", .str "", .null, .null, .null⟩
      obtain ⟨found', hrun, hfound⟩ := ih (found.insert p)
      refine ⟨found', hrun, ?_⟩
      intro n hn
      apply hfound
      rw [Found.get?_insert]
      by_cases hsame : p.number.same (.str n) = true
      · exact .inr (by rw [if_pos hsame]; rfl)
      · rw [if_neg hsame]
        rcases hn with hn | hn
        · rcases List.mem_cons.1 hn with rfl | hn
          · exact absurd (Json.same_refl _) hsame
          · exact .inl hn
        · exact .inr hn

theorem search_eq_ok {d : Directory} (hsome : numbers ≠ [])
    (hreply : (d.reply (askedNumbers numbers)).found (searchUrl d.url) = .ok found)
    (hknown : ∀ n ∈ numbers, (found.get? n).isSome = true) : d.search numbers = .ok found := by
  have hasked : askedNumbers numbers ≠ [] := by
    obtain ⟨n, hn⟩ := List.exists_mem_of_ne_nil _ hsome
    exact List.ne_nil_of_mem (mem_askedNumbers.2 hn)
  have hunknown : ((askedNumbers numbers).filter fun n => (found.get? n).isNone) = [] := by
    rw [List.filter_eq_nil_iff]
    intro n hn
    simpa [Option.isSome_iff_ne_none] using hknown n (mem_askedNumbers.1 hn)
  unfold search
  dsimp only
  rw [if_neg (mt List.isEmpty_iff.1 hasked), hreply, except_bind_eq_ok]
  exact ⟨found, rfl, by rw [hunknown]; rfl⟩

theorem exists_search {d : Directory}
    (hreply : askedNumbers numbers ≠ [] →
      (d.reply (askedNumbers numbers)).found (searchUrl d.url) = .ok found)
    (hknown : ∀ n ∈ numbers, (found.get? n).isSome = true) :
    ∃ found', d.search numbers = .ok found' := by
  by_cases hasked : askedNumbers numbers = []
  · refine ⟨[], ?_⟩
    unfold search
    dsimp only
    rw [hasked]
    rfl
  · have hsome : numbers ≠ [] := by
      rintro rfl
      exact hasked List.mergeSort_nil
    exact ⟨found, search_eq_ok hsome (hreply hasked) hknown⟩

theorem knows_everybody (people : String → Prop) : everybody.Knows people := by
  intro numbers _
  obtain ⟨found, hrun, hfound⟩ := exists_foldlM_addEntry (askedNumbers numbers) []
  refine exists_search ?_ fun n hn => hfound n (.inl (mem_askedNumbers.2 hn))
  intro hne
  have hsome : ((askedNumbers numbers).map fun n =>
      Json.obj [("prisonerNumber", .str n)]).isEmpty = false := by
    simpa using hne
  change Found.ofContent _ = _
  rw [Found.ofContent, Json.isNothing, hsome]
  exact hrun

end Directory

namespace Query

theorem run_details {p : Prisoner} (h : found.get? number = some p) :
    (details found number).run s = .ok p s := by
  rw [details, h]
  rfl

theorem exists_opposites {records : List Record}
    (hrecords : ∀ r ∈ records, ∃ other, r.other? number = some other ∧
      (found.get? other).isSome = true) :
    ∃ entries, (records.mapM (opposite found number)).run s = .ok entries s ∧
      entries.map (·.record) = records := by
  induction records with
  | nil => exact ⟨[], rfl, rfl⟩
  | cons r records ih =>
      obtain ⟨other, hother, hfound⟩ := hrecords r List.mem_cons_self
      obtain ⟨p, hp⟩ := Option.isSome_iff_exists.1 hfound
      obtain ⟨entries, hrun, hentries⟩ := ih fun r hr => hrecords r (List.mem_cons_of_mem _ hr)
      refine ⟨⟨r, p⟩ :: entries, ?_, by rw [List.map_cons, hentries]⟩
      have hopposite : (opposite found number r).run s = .ok ⟨r, p⟩ s := by
        rw [opposite, hother]
        exact bind_eq_ok.2 ⟨p, s, run_details hp, rfl⟩
      rw [List.mapM_cons, bind_eq_ok]
      refine ⟨_, s, hopposite, ?_⟩
      rw [bind_eq_ok]
      exact ⟨entries, s, hrun, rfl⟩

end Query

/-! ## Order -/

def SortField.isTime : SortField → Bool
  | whenCreated | whenUpdated | whenClosed => true
  | _ => false

theorem Entry.detail?_key {field : SortField} (e : Entry) (h : field.isTime = true) :
    (e.key field).detail? = none := by
  cases field <;> first | rfl | cases h

theorem ListOptions.listed_of_isTime {o : ListOptions} (h : o.field.isTime = true)
    (entries : List Entry) : o.listed entries = .ok (o.apply entries) := by
  have hkeys : ((entries.filter fun e => o.keeps e.record).filterMap fun e =>
      (e.key o.field).detail?) = [] := by
    rw [List.filterMap_eq_nil_iff]
    intro e _
    exact e.detail?_key h
  rw [listed, canSort, hkeys]
  rfl

theorem ListOptions.apply_perm (o : ListOptions) (entries : List Entry) :
    (o.apply entries).Perm (entries.filter fun e => o.keeps e.record) :=
  List.mergeSort_perm _ _

theorem filter_eq_singleton {α β : Type} [DecidableEq β] {f : α → β} {l : List α} {a : α}
    (hl : (l.map f).Nodup) (ha : a ∈ l) : l.filter (fun x => f x = f a) = [a] := by
  have hcount : (l.filter fun x => f x = f a).length = 1 := by
    have hone := List.count_eq_one_of_mem hl (List.mem_map_of_mem ha)
    rw [List.count, List.countP_map, List.countP_eq_length_filter] at hone
    exact hone
  obtain ⟨b, hb⟩ := List.length_eq_one_iff.1 hcount
  have hmem : a ∈ l.filter fun x => f x = f a := List.mem_filter.2 ⟨ha, by simp⟩
  rw [hb, List.mem_singleton] at hmem
  rw [hb, hmem]

/-! ## The whole listing -/

namespace Query

def IsBeside (g : Register) (number other : String) : Prop :=
  other = number ∨ ∃ r ∈ g.records, r.involves number = true ∧ r.involves other = true

theorem mem_sides {records : List Record} :
    number ∈ sides records ↔ ∃ r ∈ records, r.involves number = true := by
  simp only [sides, List.mem_flatMap, List.mem_cons, List.not_mem_nil, or_false,
    Record.involves_iff, eq_comm (a := number)]

theorem isBeside_of_mem {g : Register} {kept : List Record}
    (hkept : ∀ r ∈ kept, r ∈ g.records ∧ r.involves number = true) {other : String}
    (hother : other ∈ number :: sides kept) : IsBeside g number other := by
  rcases List.mem_cons.1 hother with rfl | hside
  · exact .inl rfl
  · obtain ⟨r, hr, hinvolves⟩ := mem_sides.1 hside
    exact .inr ⟨r, (hkept r hr).1, (hkept r hr).2, hinvolves⟩

/-- Everybody on the records that are kept was looked up, so all that is shown of them has entries. -/
theorem exists_opposites_of_search {d : Directory} {kept shown : List Record}
    (hkept : ∀ r ∈ kept, r.involves number = true)
    (hfound : d.search (number :: sides kept) = .ok found) (hshown : shown ⊆ kept) :
    ∃ entries, (shown.mapM (opposite found number)).run s = .ok entries s ∧
      entries.map (·.record) = shown := by
  refine exists_opposites ?_
  intro r hr
  obtain ⟨other, hother, hinvolves⟩ := Record.exists_other? (hkept r (hshown hr))
  have hside : other ∈ sides kept := mem_sides.2 ⟨r, hshown hr, hinvolves⟩
  exact ⟨other, hother, Directory.isSome_of_search hfound (List.mem_cons_of_mem _ hside)⟩

/-- Where other prisons are wanted too and times are sorted by, a listing succeeds as soon as the
directory knows everybody on it, and it shows each record that it keeps once. -/
theorem exists_run_forPrisoner {ctx : Context} {d : Directory} {o : ListOptions}
    (hs : s.isBroken = false) (hctx : ctx.directory = some d)
    (hd : d.Knows (IsBeside s.working number)) (ho : o.otherPrisons = true)
    (htime : o.field.isTime = true) :
    ∃ listing t, (forPrisoner ctx number o).run s = .ok listing t ∧
      (listing.entries.map (·.record)).Perm ((s.working.involving number).filter o.keeps) := by
  generalize hkept : (s.working.involving number).filter o.keeps = kept
  have hinvolved : ∀ r ∈ kept, r ∈ s.working.records ∧ r.involves number = true := by
    intro r hr
    rw [← hkept] at hr
    exact List.mem_filter.1 (List.mem_filter.1 hr).1
  obtain ⟨found, hfound⟩ := hd _ fun _ hn => isBeside_of_mem hinvolved hn
  obtain ⟨p, hp⟩ := Option.isSome_iff_exists.1
    (Directory.isSome_of_search hfound List.mem_cons_self)
  let t : Session :=
    { s with searches := s.searches ++ Directory.searches (number :: sides kept) }
  obtain ⟨entries, hrun, hentries⟩ :=
    exists_opposites_of_search (s := t) (fun r hr => (hinvolved r hr).2) hfound
      (List.Subset.refl _)
  refine ⟨⟨p, o.apply entries⟩, t, ?_, ?_⟩
  · rw [forPrisoner, bind_eq_ok]
    refine ⟨s.working, s, register_eq_ok.2 ⟨hs, rfl, rfl⟩, ?_⟩
    dsimp only
    rw [hkept, bind_eq_ok]
    refine ⟨found, t, lookUp_eq_ok.2 ⟨d, hctx, hfound, rfl⟩, ?_⟩
    -- Nobody's prison is asked for, and no record is left out for its prison.
    simp only [ho, Bool.not_true, Bool.false_and, Bool.false_eq_true, if_false, if_true]
    rw [bind_eq_ok]
    refine ⟨entries, t, hrun, ?_⟩
    rw [bind_eq_ok]
    refine ⟨p, t, run_details hp, ?_⟩
    rw [bind_eq_ok]
    exact ⟨_, t, attempt_eq_ok.2 ⟨o.listed_of_isTime htime entries, rfl⟩, rfl⟩
  · have hperm := (o.apply_perm entries).map (·.record)
    have hkeeps : ∀ e ∈ entries, o.keeps e.record = true := by
      intro e he
      have hrecord : e.record ∈ entries.map (·.record) := List.mem_map_of_mem he
      rw [hentries, ← hkept] at hrecord
      exact (List.mem_filter.1 hrecord).2
    rwa [List.filter_eq_self.2 hkeeps, hentries] at hperm

end Query

end KeepApart
