import KeepApart.Proofs.Carried
import KeepApart.Proofs.Merge.Values

/-!
# Where prisoner numbers come from

A property of prisoner numbers that holds throughout a register still holds there after an edit whose
own numbers have it, and after a merge whose new number has it. Values that name numbers may be held as
texts that they are not, but only a text leaves the renamed records as they were handed in.
-/

namespace KeepApart

open KeepApart.Action Register

variable {P : String → Prop} {g : Register} {q r v : Record} {s t : Session}

def Record.HasNumbers (P : String → Prop) (r : Record) : Prop := P r.firstNumber ∧ P r.secondNumber

namespace Record.HasNumbers

theorem ignoresId : Record.IgnoresId (Record.HasNumbers P) := fun _ _ hr => hr

theorem of_pair (hq : q.HasNumbers P) (h : r.pair = q.pair) : r.HasNumbers P := by
  obtain ⟨hfirst, hsecond⟩ := Prod.mk.inj h
  exact ⟨hfirst ▸ hq.1, hsecond ▸ hq.2⟩

end Record.HasNumbers

def Register.HasNumbers (P : String → Prop) (g : Register) : Prop :=
  ∀ r ∈ g.records, r.HasNumbers P

structure Session.HasNumbers (P : String → Prop) (s : Session) : Prop where
  table : s.working.IsTable
  numbers : s.working.HasNumbers P

namespace Session.HasNumbers

theorem of_stores (hs : s.HasNumbers P) (hr : r.HasNumbers P)
    (h : s.working.Stores r v t.working) : t.HasNumbers P :=
  ⟨h.update.table, h.all .ignoresId hs.numbers hr⟩

end Session.HasNumbers

/-! ## Edits -/

def Edit.pair? : Edit → Option (String × String)
  | create _ p _ => some (p.firstNumber, p.secondNumber)
  | upsert _ _ _ q => if q.id.isNone then some (q.firstNumber, q.secondNumber) else none
  | migrate _ _ q => some (q.firstNumber, q.secondNumber)
  | amend .. | close .. | reopen .. => none

theorem Edit.Makes.pair {c : Edit} (hg : g.IsTable) (h : c.Makes g r) :
    c.pair? = some r.pair ∨ ∃ e ∈ g.records, r.pair = e.pair := by
  have hstored {id : Int} {e : Record} (he : g.find? id = some e) : e ∈ g.records :=
    (hg.find?_eq_some_iff.1 he).1
  cases h with
  | create _ _ _ _ made =>
      obtain ⟨-, hpair, -⟩ := Proposal.pair_of_record made
      exact .inl (congrArg some hpair.symm)
  | amend _ stored made =>
      obtain rfl := Record.eq_of_amend made
      exact .inr ⟨_, hstored stored, rfl⟩
  | close _ stored _ made =>
      obtain ⟨_, _, _, -, rfl⟩ := Record.eq_of_close made
      exact .inr ⟨_, hstored stored, rfl⟩
  | reopen _ stored _ _ made =>
      obtain rfl := Record.eq_of_reopen made
      exact .inr ⟨_, hstored stored, rfl⟩
  | insert new drafted _ held =>
      obtain ⟨-, -, hfirst, hsecond, -⟩ := LegacyRequest.draft_of_accepted drafted
      rw [Edit.pair?, new, held.pair hfirst hsecond]
      exact .inl rfl
  | overwrite _ stored _ _ held => exact .inr ⟨_, hstored stored, held.pair rfl rfl⟩
  | @migrate _ _ _ d a _ drafted _ held =>
      obtain ⟨-, -, hfirst, hsecond, -⟩ := LegacyRequest.draft_of_accepted drafted
      rw [Edit.pair?, held.pair (d := { d with authorisedBy := a }) hfirst hsecond]
      exact .inl rfl

theorem Session.HasNumbers.of_edit {c : Edit} (hs : s.HasNumbers P)
    (hnamed : ∀ first second, c.pair? = some (first, second) → P first ∧ P second)
    (h : c.run.run s = .ok v t) : t.HasNumbers P := by
  obtain ⟨r, hr, hstores⟩ := Edit.makes_of_run hs.table h
  rcases hr.pair hs.table with hpair | ⟨e, he, hpair⟩
  · exact hs.of_stores (hnamed _ _ hpair) hstores
  · exact hs.of_stores ((hs.numbers e he).of_pair hpair) hstores

/-! ## Merges -/

namespace Merge

theorem Merged.hasNumbers {old new : Json} {w : Window} {m : MergeReport} {h : Register}
    (hnew : ∀ n, new = .str n → P n) (hm : Merged old new w g m h) (hplain : m.isPlain = true)
    (hg : g.HasNumbers P) : h.HasNumbers P := by
  refine hm.keeps hplain hg ?_
  intro q hq m h m' h' ho hplain hh
  cases ho with
  | collapsed _ _ | superseded _ _ _ _ _ => exact fun r hr => hh r (mem_remove.1 hr).1
  | @renamed text _ _ _ _ _ stores plain =>
      rw [isPlain_append, Bool.and_eq_true] at hplain
      have htext : P text := hnew _ (plain hplain.2)
      refine stores.all .ignoresId hh ?_
      have hopposite : P (opposite old q) := by
        unfold opposite
        split
        · exact (hg q hq).2
        · exact (hg q hq).1
      unfold target
      split
      · exact ⟨htext, hopposite⟩
      · exact ⟨hopposite, htext⟩

theorem hasNumbers_of_run {old new : String} {w : Window} {m : MergeResults} (hnew : P new)
    (hs : s.HasNumbers P) (h : (run old new w).run s = .ok m t) : t.HasNumbers P := by
  have hm := merged_of_run hs.table h
  refine ⟨hm.isTable hs.table, hm.hasNumbers ?_ isPlain_report hs.numbers⟩
  rintro _ ⟨⟩
  exact hnew

end Merge

namespace PrisonerEvent

inductive Brings (e : PrisonerEvent) (n : String) : Prop where
  | merged (kind : e.kind = mergedKind)
      (text : requireItem e.information "nomsNumber" = .ok (.str n))
  | moved (kind : e.kind = bookingMovedKind)
      (text : requireItem e.information "movedToNomsNumber" = .ok (.str n))

/-- An event that leaves the renamed records as they were handed in adds no number but the one it
brings. -/
theorem Applied.hasNumbers {e : PrisonerEvent} {outcome : Option MergeReport} {h : Register}
    (ha : e.Applied g outcome h) (hnew : ∀ n, e.Brings n → P n)
    (hplain : ∀ m, outcome = some m → m.isPlain = true) (hg : g.HasNumbers P) : h.HasNumbers P := by
  cases ha with
  | ignored => exact hg
  | merge brings merged =>
      refine merged.hasNumbers ?_ (hplain _ rfl) hg
      rintro n rfl
      cases brings with
      | merged kind value => exact hnew n (.merged kind value)
      | moved kind value => exact hnew n (.moved kind value)

theorem hasNumbers_of_apply {now : Moment} {e : PrisonerEvent} {outcome : Option MergeReport}
    (hnew : ∀ n, e.Brings n → P n) (hs : s.HasNumbers P) (h : (e.apply now).run s = .ok outcome t)
    (hplain : ∀ m, outcome = some m → m.isPlain = true) : t.HasNumbers P := by
  have happlied := applied_of_run hs.table h
  exact ⟨happlied.isTable hs.table, happlied.hasNumbers hnew hplain hs.numbers⟩

end PrisonerEvent

end KeepApart
