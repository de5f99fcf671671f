import KeepApart.Proofs.Closure
import KeepApart.Proofs.Merge.Values

/-!
# When a merge of values fails

A merge asks of storage to hold the old value before it looks for the records concerned, and the new one
when it comes to the first of them. If storage holds both as texts nothing stops the merge: a record
that is still to be taken is stored as it was. A new value that storage holds as nothing is missed
by the first record that gets it.
-/

namespace KeepApart.Action

variable {α β : Type} {act : Action α} {s : Session}

/-- The action succeeds and changes nothing of the session but the register that it works on. -/
def Succeeds (act : Action α) (s : Session) : Prop :=
  ∃ a h, act.run s = .ok a { s with working := h }

theorem run_register_bind (hs : s.isBroken = false) (act : Register → Action α) :
    (Action.register >>= act).run s = (act s.working).run s := by
  rw [EStateM.run_bind, run_register hs]

/-- The action succeeds, or the values are refused and the session stays as it was, or a text is missed
and everything since the last commit is taken back. -/
inductive Orderly (s : Session) : EStateM.Result Fault Session α → Prop where
  | done (a : α) (h : Register) : Orderly s (.ok a { s with working := h })
  | refused (cause : Invalid) : Orderly s (.error (.rejected (.invalid cause)) s)
  | missed (side : RequiredText) (id : Option Int) :
      Orderly s (.error (.rejected (.badClosure (.missingText side) id)) s.rollback)

theorem Orderly.of_succeeds (h : Succeeds act s) :
    Orderly s (act.run s) := by
  obtain ⟨a, g, h⟩ := h
  rw [h]
  exact .done a g

theorem Orderly.bind_pure (h : Orderly s (act.run s)) (k : α → β) :
    Orderly s ((act >>= fun a => pure (k a)).run s) := by
  rw [EStateM.run_bind]
  cases h' : act.run s with
  | ok a t =>
      rw [h'] at h
      cases h
      exact .done (k a) _
  | error f t =>
      rw [h'] at h
      cases h with
      | refused cause => exact .refused cause
      | missed side id => exact .missed side id

end KeepApart.Action

namespace KeepApart.Merge

open KeepApart.Action

variable {old new : Json} {number text : String} {w : Window} {g h h' : Register} {q r : Record}
variable {rest records : List Record} {m m' : MergeReport} {s t : Session} {f : Fault}

/-! ## What is handed in -/

theorem record_handed (hnew : Column.text new = .ok (some text)) :
    (handed old new q).record = .ok (q.paired (target old q text)) := by
  have hstr (s : String) : Column.text (.str s) = .ok (some s) := rfl
  unfold handed target opposite
  split <;>
  · simp only [Draft.record, Draft.column, Record.draft, hnew, hstr, Column.text_ofText?]
    rfl

theorem record_handed_nothing (hnew : Column.text new = .ok none) :
    ∃ side, (handed old new q).record = .error (.missing side) := by
  have hstr (s : String) : Column.text (.str s) = .ok (some s) := rfl
  unfold handed
  split
  · refine ⟨.firstNumber, ?_⟩
    simp only [Draft.record, Draft.column, Record.draft, hnew, hstr, Column.text_ofText?]
    rfl
  · refine ⟨.secondNumber, ?_⟩
    simp only [Draft.record, Draft.column, Record.draft, hnew, hstr, Column.text_ofText?]
    rfl

theorem closureConsistent_handed : (handed old new q).closureConsistent = q.closureConsistent := by
  unfold handed
  split <;> exact q.closureConsistent_draft

theorem id_handed : (handed old new q).id = q.id := by
  unfold handed
  split <;> rfl

/-! ## One record -/

section OneRecord

variable (hs : s.isBroken = false) (hg : s.working.IsConsistent) (hq : q ∈ s.working.records)
include hs hg hq

theorem succeeds_delete {α : Type} (a : α) :
    Succeeds (Action.delete q.id >>= fun _ => pure a) s := by
  obtain ⟨n, hid, hn⟩ := hg.table.exists_id hq
  have hdelete : (Action.delete q.id).run s = .ok () { s with working := s.working.remove n } :=
    delete_eq_ok.2 ⟨hs, n, hid, hn, ⟨q, hq, hid⟩, rfl⟩
  exact ⟨a, _, bind_eq_ok.2 ⟨(), _, hdelete, rfl⟩⟩

/-- With a duplicate or without one, a step succeeds if the record can be renamed. -/
theorem succeeds_found {α : Type} {found : Option Record} {a : Record → α} {rename : Action α}
    (hrename : Succeeds rename s) :
    Succeeds (match found with
      | some d => if d.id != q.id then Action.delete q.id >>= fun _ => pure (a d) else rename
      | none => rename) s := by
  cases found with
  | none => exact hrename
  | some d =>
      dsimp only
      split
      · exact succeeds_delete hs hg hq (a d)
      · exact hrename

theorem succeeds_rename (hnew : Column.text new = .ok (some text)) :
    Succeeds (rename old new m q) s := by
  obtain ⟨n, hid, hn⟩ := hg.table.exists_id hq
  have hclosure := hg.closures q hq
  have hsave : (saveDraft (handed old new q)).run s = .ok ⟨q.paired (target old q text),
      handed old new q⟩ { s with working := s.working.replace (q.paired (target old q text)) } := by
    refine (saveDraft_over_eq_ok (id_handed.trans hid)).2
      ⟨hs, hn, ⟨q, hq, hid⟩, ?_, ?_, hclosure, rfl, rfl⟩
    · rw [closureConsistent_handed, hclosure]
    · exact Draft.record_eq_ok.1 (record_handed hnew)
  exact ⟨_, _, bind_eq_ok.2 ⟨_, _, hsave, rfl⟩⟩

theorem succeeds_stepValues (hnew : Column.text new = .ok (some text)) :
    Succeeds (stepValues old new m q) s := by
  rw [stepValues_eq]
  split
  · exact succeeds_delete hs hg hq _
  · rw [Succeeds, run_register_bind hs, hnew]
    exact succeeds_found hs hg hq (succeeds_rename hs hg hq hnew)

theorem succeeds_step {old new : String} {m : MergeResults} : Succeeds (step old new m q) s := by
  have hrename : Succeeds (save (q.renamed old new) >>= fun v => pure (m.addRenamed v)) s := by
    obtain ⟨n, hid, hn⟩ := hg.table.exists_id hq
    rw [renamed_eq_paired]
    have hclosure : (q.paired (target (.str old) q new)).closureConsistent = true := hg.closures q hq
    exact ⟨_, _, bind_eq_ok.2 ⟨_, _, run_save_over hs hclosure hid hn ⟨q, hq, hid⟩, rfl⟩⟩
  unfold step
  split
  · exact succeeds_delete hs hg hq _
  · rw [Succeeds, run_register_bind hs]
    exact succeeds_found hs hg hq hrename

theorem rename_nothing (hnew : Column.text new = .ok none) :
    ∃ side, (rename old new m q).run s =
      .error (.rejected (.badClosure (.missingText side) q.id)) s.rollback := by
  obtain ⟨n, hid, hn⟩ := hg.table.exists_id hq
  have hmissing : ∃ side, (handed old new q).record = .error (.missing side) :=
    record_handed_nothing hnew
  obtain ⟨side, hrecord⟩ := hmissing
  have hrequire : (requireStored (some n)).run s = .ok n s :=
    requireStored_eq_ok.2 ⟨hs, rfl, hn, ⟨q, hq, hid⟩, rfl⟩
  have hwrite : (write (some n) true (.error (.missing side))).run s =
      .error (.rejected (.badClosure (.missingText side) (some n))) s.rollback := by
    simp only [write, Bool.not_true, Bool.false_eq_true, if_false]
    rw [run_register_bind hs]
    rfl
  refine ⟨side, bind_eq_error.2 (.inl ?_)⟩
  rw [saveDraft_eq_error, id_handed, closureConsistent_handed, hg.closures q hq, hrecord, hid]
  exact bind_eq_error.2 (.inr ⟨n, s, hrequire, hwrite⟩)

end OneRecord

/-- A value that storage does not hold as a text is no counterpart and has no duplicate. -/
theorem stepValues_of_no_text (hs : s.isBroken = false)
    (hnew : ∀ text, Column.text new ≠ .ok (some text)) : (stepValues old new m q).run s =
      (Action.attempt (Column.text new) >>= fun _ => rename old new m q).run s := by
  have hother : ¬ (new.str? == some (opposite old q)) = true := by
    rw [beq_iff_eq]
    intro heq
    cases new with
    | str text => exact hnew text rfl
    | _ => cases heq
  rw [stepValues_eq, if_neg hother, run_register_bind hs]
  cases hheld : Column.text new with
  | error f => rfl
  | ok held =>
      cases held with
      | none => rfl
      | some text => exact absurd hheld (hnew text)

/-! ## All records -/

/-- The records that are still to be taken are stored as they were, each under an id of its own. -/
structure Remaining (rest : List Record) (h : Register) : Prop where
  consistent : h.IsConsistent
  stored : ∀ r ∈ rest, r ∈ h.records
  distinct : (rest.map (·.id)).Nodup

theorem remaining_affected (hg : g.IsConsistent) : Remaining (affected g number w) g where
  consistent := hg
  stored := fun _ hr => (mem_affected.1 hr).1
  distinct := nodup_affected hg.table

theorem ValueOutcome.isConsistent (ho : ValueOutcome old new h q m m' h') (hh : h.IsConsistent) :
    h'.IsConsistent := by
  cases ho with
  | collapsed _ _ | superseded _ _ _ _ _ => exact hh.remove _
  | renamed _ _ _ stores _ => exact hh.update stores.closure stores.update

theorem Remaining.tail (hr : Remaining (q :: rest) h) (ho : ValueOutcome old new h q m m' h') :
    Remaining rest h' := by
  refine ⟨ho.isConsistent hr.consistent, ?_, (List.nodup_cons.1 hr.distinct).2⟩
  intro r hmem
  have hid : r.id ≠ q.id := id_ne_of_distinct hr.distinct hmem
  exact (ho.others_iff hr.consistent.table (hr.stored q List.mem_cons_self) hid).2
    (hr.stored r (List.mem_cons_of_mem _ hmem))

theorem succeeds_foldlM {α : Type} {f : α → Record → Action α} (report : α → MergeReport)
    (hrun : ∀ {s : Session} {q a}, s.isBroken = false → s.working.IsConsistent →
      q ∈ s.working.records → Succeeds (f a q) s)
    (hstep : ∀ {s t : Session} {q a a'}, s.working.IsTable → (f a q).run s = .ok a' t →
      ValueOutcome old new s.working q (report a) (report a') t.working)
    (hs : s.isBroken = false) (hr : Remaining records s.working) (a : α) :
    Succeeds (records.foldlM f a) s := by
  induction records generalizing a s with
  | nil => exact ⟨a, s.working, rfl⟩
  | cons q rest ih =>
      obtain ⟨a₁, h₁, hfirst⟩ := hrun (a := a) hs hr.consistent (hr.stored q List.mem_cons_self)
      have hrest : Remaining rest h₁ := hr.tail (hstep hr.consistent.table hfirst)
      obtain ⟨a', h', hothers⟩ := ih (s := { s with working := h₁ }) hs hrest a₁
      rw [List.foldlM_cons]
      exact ⟨a', h', bind_eq_ok.2 ⟨a₁, _, hfirst, hothers⟩⟩

/-! ## Whole merges -/

theorem invalid_of_checkValues {r : Rejection} (h : checkValues old new = .error r) :
    ∃ cause, r = .invalid cause := by
  unfold checkValues at h
  split at h
  · cases h
    exact ⟨_, rfl⟩
  · split at h <;> cases h
    exact ⟨_, rfl⟩

/-- The merge is not refused, and storage cannot hold a value that it asks storage to hold. -/
inductive Unheld (old new : Json) (w : Window) (g : Register) (f : Fault) : Prop where
  | old (checked : checkValues old new = .ok ()) (unheld : Column.text old = .error f) :
      Unheld old new w g f
  | new {number : String} (checked : checkValues old new = .ok ())
      (held : Column.text old = .ok (some number)) (concerned : affected g number w ≠ [])
      (unheld : Column.text new = .error f) : Unheld old new w g f

section Whole

variable (hs : s.isBroken = false)
include hs

theorem runValues_of_checked (hchecked : checkValues old new = .ok ()) :
    (runValues old new w).run s =
      (Action.attempt (Column.text old) >>= fun
        | none => pure {}
        | some number =>
          (affected s.working number w).foldlM (stepValues old new) {}).run s := by
  unfold runValues
  rw [hchecked]
  exact run_register_bind hs _

theorem runValues_of_unheld (h : Unheld old new w s.working f) :
    (runValues old new w).run s = .error f s := by
  cases h with
  | old checked unheld =>
      rw [runValues_of_checked hs checked, unheld]
      rfl
  | @new number checked held concerned unheld =>
      obtain ⟨q, rest, hrecords⟩ := List.exists_cons_of_ne_nil concerned
      have hfirst : (stepValues old new {} q).run s = .error f s := by
        rw [stepValues_of_no_text hs (by simp [unheld]), unheld]
        rfl
      rw [runValues_of_checked hs checked, held]
      change ((affected s.working number w).foldlM (stepValues old new) {}).run s = _
      rw [hrecords, List.foldlM_cons]
      exact bind_eq_error.2 (.inl hfirst)

theorem ofValues_of_unheld (h : Unheld old new w s.working f) :
    (ofValues old new w).run s = .error f s := by
  have hrun := runValues_of_unheld hs h
  unfold ofValues
  split
  · rcases h with ⟨-, unheld⟩ | ⟨-, -, -, unheld⟩ <;> cases unheld
  · exact hrun

theorem orderly_foldlM {held : Option String} (hr : Remaining records s.working)
    (hnew : Column.text new = .ok held) :
    Orderly s ((records.foldlM (stepValues old new) {}).run s) := by
  cases held with
  | some text =>
      refine .of_succeeds (succeeds_foldlM (f := stepValues old new) id ?_
        outcome_of_stepValues hs hr {})
      intro s q m hs hg hq
      exact succeeds_stepValues hs hg hq hnew
  | none =>
      cases records with
      | nil => exact .done ({} : MergeReport) s.working
      | cons q rest =>
          have hfirst : ∃ side, (stepValues old new {} q).run s =
              .error (.rejected (.badClosure (.missingText side) q.id)) s.rollback := by
            rw [stepValues_of_no_text hs (by simp [hnew]), hnew]
            exact rename_nothing hs hr.consistent (hr.stored q List.mem_cons_self) hnew
          obtain ⟨side, hfirst⟩ := hfirst
          rw [List.foldlM_cons, bind_eq_error.2 (.inl hfirst)]
          exact .missed side q.id

/-- A merge has an orderly end, or a value that storage cannot hold. -/
theorem orderly_or_unheld_runValues (hg : s.working.IsConsistent) :
    Orderly s ((runValues old new w).run s) ∨ ∃ f, Unheld old new w s.working f := by
  cases hchecked : checkValues old new with
  | error r =>
      obtain ⟨cause, rfl⟩ := invalid_of_checkValues hchecked
      refine .inl ?_
      unfold runValues
      rw [hchecked]
      exact .refused cause
  | ok _ =>
      rw [runValues_of_checked hs hchecked]
      cases hold : Column.text old with
      | error f => exact .inr ⟨f, .old hchecked hold⟩
      | ok held =>
          cases held with
          | none => exact .inl (.done ({} : MergeReport) s.working)
          | some number =>
              change Orderly s (((affected s.working number w).foldlM (stepValues old new) {}).run s) ∨ _
              cases hnew : Column.text new with
              | ok _ => exact .inl (orderly_foldlM hs (remaining_affected hg) hnew)
              | error f =>
                  by_cases hrecords : affected s.working number w = []
                  · rw [hrecords]
                    exact .inl (.done ({} : MergeReport) s.working)
                  · exact .inr ⟨f, .new hchecked hold hrecords hnew⟩

theorem orderly_run (hg : s.working.IsConsistent) (old new : String) :
    Orderly s ((run old new w).run s) := by
  unfold run
  cases hchecked : checkNumbers old new with
  | error r =>
      obtain ⟨cause, rfl⟩ := invalid_of_checkNumbers hchecked
      exact .refused cause
  | ok _ =>
      change Orderly s ((Action.register >>= fun g =>
        (affected g old w).foldlM (step old new) {}).run s)
      rw [run_register_bind hs]
      refine .of_succeeds (succeeds_foldlM MergeResults.report ?_ outcome_of_step hs
        (remaining_affected hg) {})
      intro s q m hs hg hq
      exact succeeds_step hs hg hq

theorem orderly_or_unheld (hg : s.working.IsConsistent) :
    Orderly s ((ofValues old new w).run s) ∨ ∃ f, Unheld old new w s.working f := by
  have hvalues : Orderly s ((runValues old new w).run s) ∨ ∃ f, Unheld old new w s.working f :=
    orderly_or_unheld_runValues hs hg
  unfold ofValues
  split
  · exact .inl ((orderly_run hs hg _ _).bind_pure _)
  · exact hvalues

end Whole

end KeepApart.Merge
