import Mathlib.Data.List.Forall2
import KeepApart.Proofs.Query
import KeepApart.Proofs.Table

/-!
# What a listing shows

A listing that succeeds shows the records that it keeps, unless it leaves out some for their prisons.
Each is shown once, beside the details that the directory gave of the prisoner opposite.
-/

namespace KeepApart

open KeepApart.Action

variable {α β ε : Type} {s t : Session} {g : Register} {found : Found} {number other : String}
variable {o : ListOptions} {r : Record} {l : PrisonerListing}

/-! ## Details from the directory -/

theorem Json.eq_str_of_same {v : Json} {text : String} (h : v.same (.str text) = true) :
    v = .str text := by
  rw [same_str, beq_iff_eq] at h
  cases v with
  | str s =>
      obtain rfl : s = text := Option.some.inj h
      rfl
  | _ => cases h

namespace Found

/-- Each prisoner is kept under a value that is the same as their number. -/
def IsKeyed (found : Found) : Prop := ∀ f ∈ found, f.1.same f.2.number = true

theorem IsKeyed.insert (h : found.IsKeyed) (p : Prisoner) : (found.insert p).IsKeyed := by
  induction found with
  | nil =>
      intro f hf
      obtain rfl := List.mem_singleton.1 hf
      exact Json.same_refl p.number
  | cons first rest ih =>
      have hrest : Found.IsKeyed rest := fun f hf => h f (List.mem_cons_of_mem _ hf)
      intro f hf
      rw [Found.insert] at hf
      -- A later entry is kept under the value of the earlier one, say `1` for `1.0`.
      by_cases hsame : first.1.same p.number = true
      · rw [if_pos hsame] at hf
        rcases List.mem_cons.1 hf with rfl | hf
        · exact hsame
        · exact hrest f hf
      · rw [if_neg hsame] at hf
        rcases List.mem_cons.1 hf with rfl | hf
        · exact h _ List.mem_cons_self
        · exact ih hrest f hf

theorem IsKeyed.addEntry {entry : Json} {found' : Found} (h : found.IsKeyed)
    (hadd : found.addEntry entry = .ok found') : found'.IsKeyed := by
  rw [Found.addEntry, except_bind_eq_ok] at hadd
  obtain ⟨p, -, hadd⟩ := hadd
  split at hadd
  · cases hadd
  · cases hadd
  · obtain rfl := Except.ok.inj hadd
    exact h.insert p

theorem IsKeyed.addEntries {entries : List Json} {found' : Found} (h : found.IsKeyed)
    (hadd : entries.foldlM Found.addEntry found = .ok found') : found'.IsKeyed := by
  induction entries generalizing found with
  | nil =>
      obtain rfl := Except.ok.inj hadd
      exact h
  | cons entry entries ih =>
      rw [List.foldlM_cons, except_bind_eq_ok] at hadd
      obtain ⟨next, hnext, hadd⟩ := hadd
      exact ih (h.addEntry hnext) hadd

theorem number_of_get? {p : Prisoner} (h : found.IsKeyed) (hp : found.get? number = some p) :
    p.number = .str number := by
  rw [Found.get?, Option.map_eq_some_iff] at hp
  obtain ⟨f, hf, rfl⟩ := hp
  have hkey : f.1.same (.str number) = true :=
    List.find?_some (p := fun f : Json × Prisoner => f.1.same (.str number)) hf
  have hown : f.2.number.same f.1 = true := by
    rw [Json.same_comm]
    exact h f (List.mem_of_find?_eq_some hf)
  exact Json.eq_str_of_same (Json.same_trans hown hkey)

theorem isKeyed_of_ofContent {content : Json} (h : Found.ofContent content = .ok found) :
    found.IsKeyed := by
  have hempty : Found.IsKeyed [] := List.forall_mem_nil _
  unfold Found.ofContent at h
  split at h
  · obtain rfl := Except.ok.inj h
    exact hempty
  · split at h
    · exact hempty.addEntries h
    · cases h

end Found

theorem Reply.isKeyed_of_found {url : String} {reply : Reply} (h : reply.found url = .ok found) :
    found.IsKeyed := by
  unfold Reply.found at h
  split at h
  · split at h
    · cases h
    · split at h
      · cases h
      · exact Found.isKeyed_of_ofContent h
  · cases h
  · cases h

theorem Directory.isKeyed_of_search {d : Directory} {numbers : List String}
    (h : d.search numbers = .ok found) : found.IsKeyed := by
  unfold search at h
  dsimp only at h
  split at h
  · obtain rfl := Except.ok.inj h
    exact List.forall_mem_nil _
  · rw [except_bind_eq_ok] at h
    obtain ⟨found', hfound', h⟩ := h
    split at h
    · obtain rfl := Except.ok.inj h
      exact Reply.isKeyed_of_found hfound'
    · cases h

theorem ListOptions.eq_of_listed {entries listed : List Entry}
    (h : o.listed entries = .ok listed) : o.apply entries = listed := by
  unfold ListOptions.listed at h
  split at h
  · exact Except.ok.inj h
  · cases h

/-! ## Listings that succeed -/

namespace Action

theorem when_eq_ok {c : Prop} [Decidable c] {x : Action Unit} {act : Action α} {a : α} :
    (if c then x >>= fun _ => act else act).run s = .ok a t ↔
      ∃ u, (if c then x.run s = .ok () u else s = u) ∧ act.run u = .ok a t := by
  by_cases hc : c
  · simp only [if_pos hc, bind_eq_ok]
    exact ⟨fun ⟨_, u, hx, hact⟩ => ⟨u, hx, hact⟩, fun ⟨u, hx, hact⟩ => ⟨(), u, hx, hact⟩⟩
  · simp only [if_neg hc, exists_eq_left']

/-- An action for each of the elements, which leaves the session as it is and gives something to which
the element belongs. -/
theorem mapM_eq_ok {f : α → Action β} {origin : β → α} {P : α → β → Prop} {as : List α}
    {bs : List β} (hf : ∀ {a b s t}, (f a).run s = .ok b t → s = t ∧ origin b = a ∧ P a b)
    (h : (as.mapM f).run s = .ok bs t) :
    s = t ∧ bs.map origin = as ∧ ∀ b ∈ bs, P (origin b) b := by
  induction as generalizing bs with
  | nil =>
      rw [List.mapM_nil, pure_eq_ok] at h
      obtain ⟨rfl, rfl⟩ := h
      exact ⟨rfl, rfl, List.forall_mem_nil _⟩
  | cons a as ih =>
      simp only [List.mapM_cons, bind_eq_ok, pure_eq_ok] at h
      obtain ⟨b, u, hb, rest, _, hrest, rfl, rfl⟩ := h
      obtain ⟨rfl, horigin, hP⟩ := hf hb
      obtain ⟨rfl, horigins, hPs⟩ := ih hrest
      rw [← horigin] at hP
      exact ⟨rfl, by rw [List.map_cons, horigin, horigins], List.forall_mem_cons.2 ⟨hP, hPs⟩⟩

end Action

namespace Query

theorem requirePrisons_eq_ok {numbers : List String} :
    (requirePrisons found numbers).run s = .ok () t ↔
      (∀ n ∈ numbers, (prison found n).isNull = false) ∧ s = t := by
  have hmissing : ((askedNumbers numbers).filter fun n => (prison found n).isNull).isEmpty = true ↔
      ∀ n ∈ numbers, (prison found n).isNull = false := by
    simp only [List.isEmpty_iff, List.filter_eq_nil_iff, mem_askedNumbers, Bool.not_eq_true]
  unfold requirePrisons
  dsimp only
  by_cases hall : ∀ n ∈ numbers, (prison found n).isNull = false
  · rw [if_pos (hmissing.2 hall), pure_eq_ok]
    exact ⟨fun ⟨_, hst⟩ => ⟨hall, hst⟩, fun ⟨_, hst⟩ => ⟨rfl, hst⟩⟩
  · rw [if_neg (mt hmissing.1 hall)]
    exact ⟨fun h => absurd h reject_ne_ok, fun h => absurd h.1 hall⟩

theorem details_eq_ok {p : Prisoner} :
    (details found number).run s = .ok p t ↔ found.get? number = some p ∧ s = t := by
  unfold details
  cases found.get? number with
  | none => simp [throw_ne_ok]
  | some q => simp

theorem opposite_eq_ok {e : Entry} (h : (opposite found number r).run s = .ok e t) :
    s = t ∧ e.record = r ∧ ∃ other, r.other? number = some other ∧
      found.get? other = some e.prisoner := by
  unfold opposite at h
  cases hother : r.other? number with
  | none =>
      rw [hother] at h
      exact absurd h throw_ne_ok
  | some other =>
      simp only [hother, bind_eq_ok, details_eq_ok, pure_eq_ok] at h
      obtain ⟨p, _, ⟨hp, rfl⟩, rfl, rfl⟩ := h
      exact ⟨rfl, rfl, other, rfl, hp⟩

theorem opposites_eq_ok {records : List Record} {entries : List Entry}
    (h : (records.mapM (opposite found number)).run s = .ok entries t) :
    s = t ∧ entries.map (·.record) = records ∧ ∀ e ∈ entries, ∃ other,
      e.record.other? number = some other ∧ found.get? other = some e.prisoner :=
  mapM_eq_ok opposite_eq_ok h

/-- The records of the prisoner that the listing keeps, whatever the prisons. -/
def kept (g : Register) (number : String) (o : ListOptions) : List Record :=
  (g.involving number).filter o.keeps

def sharesPrison (found : Found) (number : String) (o : ListOptions) (r : Record) : Bool :=
  o.otherPrisons ||
    (prison found r.firstNumber).equals (prison found number) &&
      (prison found r.secondNumber).equals (prison found number)

theorem mem_kept : r ∈ kept g number o ↔
    r ∈ g.records ∧ r.involves number = true ∧ o.keeps r = true := by
  rw [kept, List.mem_filter, Register.involving, List.mem_filter, and_assoc]

theorem prison_of_get? {p : Prisoner} (h : found.get? number = some p) :
    prison found number = p.prisonId := by
  rw [prison, h]
  rfl

theorem shown_sublist (g : Register) (number : String) (o : ListOptions) (found : Found) :
    ((kept g number o).filter (sharesPrison found number o)).Sublist g.records :=
  List.filter_sublist.trans (List.filter_sublist.trans List.filter_sublist)

theorem filter_unless (c : Bool) (p : α → Bool) (l : List α) :
    (if c = true then l else l.filter p) = l.filter fun a => c || p a := by
  cases c with
  | true => rw [if_pos rfl, List.filter_eq_self.2 fun _ _ => Bool.true_or _]
  | false => simp only [Bool.false_or, Bool.false_eq_true, if_false]

theorem filter_sharesPrison (records : List Record) :
    (if o.otherPrisons = true then records
      else records.filter fun r => (prison found r.firstNumber).equals (prison found number) &&
        (prison found r.secondNumber).equals (prison found number)) =
      records.filter (sharesPrison found number o) :=
  filter_unless _ _ _

/-- The filter behind the look-up drops nothing more, so only the sorting is left. -/
theorem apply_perm_of_keeps {records : List Record} {entries : List Entry}
    (hrecords : entries.map (·.record) = records) (hkeeps : ∀ r ∈ records, o.keeps r = true) :
    (o.apply entries).Perm entries := by
  have hentries : entries.filter (fun e => o.keeps e.record) = entries := by
    refine List.filter_eq_self.2 fun e he => hkeeps e.record ?_
    rw [← hrecords]
    exact List.mem_map_of_mem he
  have happly := o.apply_perm entries
  rwa [hentries] at happly

structure Shows (g : Register) (number : String) (o : ListOptions) (found : Found)
    (l : PrisonerListing) : Prop where
  prisoner : found.get? number = some l.prisoner
  located : o.otherPrisons = false → kept g number o ≠ [] →
    ∀ n ∈ number :: sides (kept g number o), (prison found n).isNull = false
  records : (l.entries.map (·.record)).Perm ((kept g number o).filter (sharesPrison found number o))
  opposite : ∀ e ∈ l.entries, ∃ other, e.record.other? number = some other ∧
    found.get? other = some e.prisoner

theorem sorted_of_forPrisoner {ctx : Context} (h : (forPrisoner ctx number o).run s = .ok l t) :
    ∃ d found entries, ctx.directory = some d ∧
      d.search (number :: sides (kept s.working number o)) = .ok found ∧
      Shows s.working number o found l ∧
      entries.map (·.record) = (kept s.working number o).filter (sharesPrison found number o) ∧
      l.entries = o.apply entries := by
  unfold forPrisoner at h
  dsimp only at h
  simp only [bind_eq_ok, register_eq_ok, lookUp_eq_ok, when_eq_ok, details_eq_ok, attempt_eq_ok,
    pure_eq_ok, filter_sharesPrison] at h
  obtain ⟨g, _, ⟨-, rfl, rfl⟩, found, u, ⟨d, hctx, hfound, hu⟩, u', hlocated, entries, _, hentries,
    p, _, ⟨hp, rfl⟩, listed, _, ⟨hlisted, rfl⟩, rfl, rfl⟩ := h
  obtain ⟨rfl, hrecords, hothers⟩ := opposites_eq_ok hentries
  obtain rfl := o.eq_of_listed hlisted
  have hperm : (o.apply entries).Perm entries :=
    apply_perm_of_keeps hrecords fun r hr => (mem_kept.1 (List.mem_filter.1 hr).1).2.2
  refine ⟨d, found, entries, hctx, hfound, ⟨hp, ?_, ?_, ?_⟩, hrecords, rfl⟩
  · intro hown hne
    have hsome : (kept s.working number o).isEmpty = false := by simpa using hne
    have hcond : (!o.otherPrisons && !(kept s.working number o).isEmpty) = true := by
      rw [hown, hsome]
      rfl
    rw [kept] at hcond
    rw [if_pos hcond, requirePrisons_eq_ok] at hlocated
    exact hlocated.1
  · rw [kept, ← hrecords]
    exact hperm.map _
  · intro e he
    exact hothers e (hperm.mem_iff.1 he)

theorem shows_of_forPrisoner {ctx : Context} (h : (forPrisoner ctx number o).run s = .ok l t) :
    ∃ d found, ctx.directory = some d ∧
      d.search (number :: sides (kept s.working number o)) = .ok found ∧
      Shows s.working number o found l := by
  obtain ⟨d, found, -, hctx, hfound, hshows, -, -⟩ := sorted_of_forPrisoner h
  exact ⟨d, found, hctx, hfound, hshows⟩

namespace Shows

theorem filter_eq_singleton (hl : Shows g number o found l) (hg : g.IsTable)
    (hr : r ∈ kept g number o) (hshared : sharesPrison found number o r = true)
    (hother : r.other? number = some other) :
    ∃ p, found.get? other = some p ∧ l.entries.filter (·.record.id = r.id) = [⟨r, p⟩] := by
  have hmem : r ∈ l.entries.map (·.record) :=
    hl.records.mem_iff.2 (List.mem_filter.2 ⟨hr, hshared⟩)
  obtain ⟨e, he, rfl⟩ := List.mem_map.1 hmem
  have hids : (l.entries.map (·.record.id)).Nodup := by
    have hkept : ((kept g number o).filter (sharesPrison found number o)).map (·.id) |>.Nodup :=
      hg.nodup_ids.sublist ((shown_sublist g number o found).map _)
    have hlisted := (hl.records.map (·.id)).nodup_iff.2 hkept
    rwa [List.map_map] at hlisted
  obtain ⟨_, hsome, hp⟩ := hl.opposite e he
  obtain rfl := Option.some.inj (hother.symm.trans hsome)
  exact ⟨e.prisoner, hp, KeepApart.filter_eq_singleton hids he⟩

theorem filter_eq_nil (hl : Shows g number o found l) (hg : g.IsTable) (hr : r ∈ g.records)
    (hhidden : ¬ (r ∈ kept g number o ∧ sharesPrison found number o r = true)) :
    l.entries.filter (·.record.id = r.id) = [] := by
  rw [List.filter_eq_nil_iff]
  intro e he hid
  have hrecord : e.record ∈ l.entries.map (·.record) := List.mem_map_of_mem he
  obtain ⟨hkept, hshared⟩ := List.mem_filter.1 (hl.records.mem_iff.1 hrecord)
  have hsame : e.record = r := hg.eq_of_id_eq (mem_kept.1 hkept).1 hr (of_decide_eq_true hid)
  rw [hsame] at hkept hshared
  exact hhidden ⟨hkept, hshared⟩

end Shows

end Query

end KeepApart
