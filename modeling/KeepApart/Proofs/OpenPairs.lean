import Mathlib.Data.List.Induction
import KeepApart.Proofs.History
import KeepApart.Proofs.Merge.Survivors

/-!
# Open records and their pairs

Edits keep open records apart: no two of them are of the same two prisoners, in whatever order these
stand. A merge does not look for records in the reverse order, so over merges this holds only of the
same order.
-/

namespace KeepApart.Register

variable {g h : Register} {same : String × String → String × String → Prop} {r v : Record}

/-- A way in which pairs count as the same: at most when they are of the same two prisoners. -/
structure IsSameness (same : String × String → String × String → Prop) : Prop where
  symm : ∀ p q, same p q → same q p
  between : ∀ p q, same p q → p = q ∨ p = q.swap

theorem isSameness_eq : IsSameness Eq :=
  ⟨fun _ _ => Eq.symm, fun _ _ => .inl⟩

theorem isSameness_either : IsSameness fun p q => p = q ∨ p = q.swap := by
  refine ⟨?_, fun _ _ => id⟩
  rintro p q (rfl | rfl)
  · exact .inl rfl
  · exact .inr rfl

/-- No two open records have pairs that count as the same. -/
def OpenApart (same : String × String → String × String → Prop) (g : Register) : Prop :=
  ∀ r ∈ g.records, ∀ s ∈ g.records, r.isOpen = true → s.isOpen = true → same r.pair s.pair →
    r.id = s.id

theorem openApart_empty : empty.OpenApart same := by
  intro r hr
  cases hr

theorem OpenApart.pairwise (hg : g.IsTable) (ho : g.OpenApart same) :
    g.records.Pairwise fun r s => r.isOpen = true → s.isOpen = true → ¬ same r.pair s.pair := by
  have hids : g.records.Pairwise fun r s => r.id ≠ s.id := List.pairwise_map.1 hg.nodup_ids
  refine hids.imp_of_mem ?_
  intro r s hr hs hne hropen hsopen hsame
  exact hne (ho r hr s hs hropen hsopen hsame)

/-! ## Edits -/

theorem Admits.id_eq (hsame : IsSameness same) (hv : g.Admits v) (ho : g.OpenApart same)
    (hr : r ∈ g.records) (hvopen : v.isOpen = true) (hropen : r.isOpen = true)
    (h : same v.pair r.pair) : r.id = v.id := by
  have halone : g.NoOtherOpen v.id v.firstNumber v.secondNumber → r.id = v.id := by
    intro halone
    refine halone r hr hropen (Record.isBetween_iff.2 ?_)
    rcases hsame.between _ _ (hsame.symm _ _ h) with heq | heq
    · exact .inl heq
    · exact .inr heq
  cases hv with
  | new _ _ alone => exact halone (alone hvopen)
  | again e he hid hpair alone =>
      rcases alone hvopen with heopen | hno
      · rw [← hpair] at h
        exact (ho e he r hr heopen hropen h).symm.trans hid
      · exact halone hno

theorem OpenApart.update (hsame : IsSameness same) (ho : g.OpenApart same) (hv : g.Admits v)
    (hh : g.IsUpdate v h) : h.OpenApart same := by
  intro r hr s hs hropen hsopen hpair
  rcases (hh.mem_iff r).1 hr with rfl | ⟨hr, -⟩ <;> rcases (hh.mem_iff s).1 hs with rfl | ⟨hs, -⟩
  · rfl
  · exact (hv.id_eq hsame ho hs hropen hsopen hpair).symm
  · exact hv.id_eq hsame ho hr hsopen hropen (hsame.symm _ _ hpair)
  · exact ho r hr s hs hropen hsopen hpair

theorem OpenApart.after_edit (hsame : IsSameness same) (hg : g.IsTable) (ho : g.OpenApart same)
    (e : Edit) : (g.after (.edit e)).OpenApart same := by
  rcases Register.after_edit hg e with h | ⟨v, -, hv, hupdate⟩
  · rw [h]
    exact ho
  · exact ho.update hsame hv hupdate

theorem reached_edits_apart (hsame : IsSameness same) (edits : List Edit) :
    (reached (edits.map .edit)).IsSound ∧ (reached (edits.map .edit)).OpenApart same := by
  induction edits using List.reverseRecOn with
  | nil => exact ⟨isSound_empty, openApart_empty⟩
  | append_singleton edits e ih =>
      obtain ⟨hg, ho⟩ := ih
      rw [List.map_append, List.map_singleton, reached_concat]
      exact ⟨hg.after_edit e, ho.after_edit hsame hg.table e⟩

/-- However often records are edited, no two open ones are of the same two prisoners. -/
theorem edits_keep_open_apart (edits : List Edit) :
    (reached (edits.map .edit)).records.Pairwise fun r s =>
      r.isOpen = true → s.isOpen = true → r.isBetween s.firstNumber s.secondNumber = false := by
  obtain ⟨hg, ho⟩ := reached_edits_apart isSameness_either edits
  refine (ho.pairwise hg.table).imp ?_
  intro r s hapart hropen hsopen
  rw [← Bool.not_eq_true, Record.isBetween_iff]
  exact hapart hropen hsopen

/-! ## Merges -/

/-- A merge changes nothing, or does what it does to two different numbers. -/
theorem after_merge (hg : g.IsSound) (old new : String) (w : Window) :
    g.after (.merge old new w) = g ∨ (old ≠ new ∧
      Merge.Progress g old new w (Merge.affected g old w) (g.after (.merge old new w))) := by
  rw [Register.after, Action.scope_snd]
  cases hcheck : Merge.checkNumbers old new with
  | error f =>
      have hrun : (Merge.run old new w).run (Session.start g) =
          .error (.rejected f) (Session.start g) := by
        rw [Merge.run, hcheck]
        rfl
      rw [hrun]
      exact .inl rfl
  | ok u =>
      obtain ⟨hold, hnew, hne⟩ := Merge.checkNumbers_eq_ok.1 hcheck
      have hs : (Session.start g).isBroken = false := rfl
      obtain ⟨m, h, hrun, hp⟩ := Merge.exists_run_progress hs hg hold hnew hne w
      rw [hrun]
      exact .inr ⟨hne, hp⟩

theorem OpenApart.merged {old new : String} {w : Window} (ho : g.OpenApart Eq) (hne : old ≠ new)
    (hp : Merge.Progress g old new w (Merge.affected g old w) h) : h.OpenApart Eq := by
  intro r hr s hs hropen hsopen hpair
  -- A survivor gets a pair that was free, and two survivors do not get the same one.
  rcases (hp.mem_iff_affected r).1 hr with ⟨hr, -⟩ | ⟨q, hq, rfl⟩ <;>
    rcases (hp.mem_iff_affected s).1 hs with ⟨hs, -⟩ | ⟨q', hq', rfl⟩
  · exact ho r hr s hs hropen hsopen hpair
  · exact absurd hpair (hq'.free r hr)
  · exact absurd hpair.symm (hq.free s hs)
  · have hid : q.id = q'.id := hq.id_eq hq' hne hpair
    exact hid

theorem reached_apart (steps : List Step) :
    (reached steps).IsSound ∧ (reached steps).OpenApart Eq := by
  induction steps using List.reverseRecOn with
  | nil => exact ⟨isSound_empty, openApart_empty⟩
  | append_singleton steps step ih =>
      obtain ⟨hg, ho⟩ := ih
      rw [reached_concat]
      cases step with
      | edit e => exact ⟨hg.after_edit e, ho.after_edit isSameness_eq hg.table e⟩
      | merge old new w =>
          rcases after_merge hg old new w with h | ⟨hne, hp⟩
          · rw [h]
            exact ⟨hg, ho⟩
          · exact ⟨hp.isSound hg hne, ho.merged hne hp⟩

/-- However records are edited and numbers merged, no record is of one prisoner twice, ids differ, and
no two open records have the same pair in the same order. -/
theorem reached_pairs_distinct (steps : List Step) :
    (∀ r ∈ (reached steps).records, r.firstNumber ≠ r.secondNumber) ∧
      (reached steps).ids.Nodup ∧
      (reached steps).records.Pairwise fun r s =>
        r.isOpen = true → s.isOpen = true → r.pair ≠ s.pair := by
  obtain ⟨hg, ho⟩ := reached_apart steps
  exact ⟨hg.pairs, hg.table.nodup_ids, ho.pairwise hg.table⟩

end KeepApart.Register
