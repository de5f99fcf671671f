import KeepApart.Proofs.OpenPairs
import KeepApart.Proofs.Submission

/-!
# Failed calls

A call that fails has changed nothing, whatever uncommitted work its session held: an edit fails before
it stores its record, and a merge before it touches one. This needs the defaults of legacy requests to
be texts.
-/

namespace KeepApart

open KeepApart.Action Register

variable {s t : Session} {f : Fault}

/-! ## All calls -/

def Step.run : Step → Action Unit
  | edit e => do
    let _ ← e.run
    return ()
  | merge old new w => do
    let _ ← Merge.run old new w
    return ()

def Step.HasDefaults (P : Json → Prop) : Step → Prop
  | edit e => e.HasDefaults P
  | merge .. => True

instance {P : Session → Prop} [IsInvariant P] (c : Step) : Keeps P c.run := by
  cases c <;> unfold Step.run <;> infer_instance

namespace Step

variable {e : Edit} {old new : String} {w : Window}

theorem run_edit_eq_error : (edit e).run.run s = .error f t ↔ e.run.run s = .error f t :=
  bind_pure_eq_error

theorem run_merge_eq_error :
    (merge old new w).run.run s = .error f t ↔ (Merge.run old new w).run s = .error f t :=
  bind_pure_eq_error

theorem run_edit_eq_ok : (edit e).run.run s = .ok () t ↔ ∃ v, e.run.run s = .ok v t := by
  simp only [run, bind_eq_ok, pure_eq_ok, true_and, exists_eq_right]

theorem run_merge_eq_ok :
    (merge old new w).run.run s = .ok () t ↔ ∃ m, (Merge.run old new w).run s = .ok m t := by
  simp only [run, bind_eq_ok, pure_eq_ok, true_and, exists_eq_right]

end Step

theorem Merge.invalid_of_checkNumbers {old new : String} {r : Rejection}
    (h : checkNumbers old new = .error r) : ∃ cause, r = .invalid cause := by
  unfold checkNumbers at h
  split at h
  · cases h
    exact ⟨_, rfl⟩
  · split at h <;> cases h
    exact ⟨_, rfl⟩

/-- A merge is refused for its numbers, finds the session broken, or succeeds. -/
theorem Merge.run_cases (hs : s.working.IsSound) (old new : String) (w : Window) :
    (∃ r, checkNumbers old new = .error r ∧ (run old new w).run s = .error (.rejected r) s) ∨
      (s.isBroken = true ∧ (run old new w).run s = .error .pendingRollback s) ∨
      ∃ m h, (run old new w).run s = .ok m { s with working := h } ∧ h.IsSound := by
  cases hcheck : checkNumbers old new with
  | error r =>
      refine .inl ⟨r, rfl, ?_⟩
      rw [run, bind_eq_error]
      exact .inl (check_eq_error.2 ⟨r, hcheck, rfl, rfl⟩)
  | ok u =>
      by_cases hb : s.isBroken = true
      · refine .inr (.inl ⟨hb, ?_⟩)
        rw [run, bind_eq_error]
        refine .inr ⟨u, s, check_eq_ok.2 ⟨hcheck, rfl⟩, ?_⟩
        rw [bind_eq_error]
        exact .inl (register_eq_error.2 ⟨hb, rfl, rfl⟩)
      · obtain ⟨hold, hnew, hne⟩ := checkNumbers_eq_ok.1 hcheck
        obtain ⟨m, h, hrun, hp⟩ := exists_run_progress (by simpa using hb) hs hold hnew hne w
        exact .inr (.inr ⟨m, h, hrun, hp.isSound hs hne⟩)

theorem Step.spared_of_error {c : Step} (hs : s.working.IsSound) (hc : c.HasDefaults Json.IsText)
    (h : c.run.run s = .error f t) : s.Spared f t := by
  cases c with
  | edit e =>
      exact Edit.spared_of_error hs hc (run_edit_eq_error.1 h)
  | merge old new w =>
      rw [run_merge_eq_error] at h
      rcases Merge.run_cases hs old new w with ⟨r, hr, hrun⟩ | ⟨-, hrun⟩ | ⟨m, h', hrun, -⟩
      · obtain ⟨cause, rfl⟩ := Merge.invalid_of_checkNumbers hr
        rw [hrun] at h
        cases h
        exact ⟨rfl, rfl⟩
      · rw [hrun] at h
        cases h
        exact ⟨rfl, rfl⟩
      · rw [hrun] at h
        cases h

/-! ## Sessions -/

/-- A session that calls were made in, whether they succeeded or failed, with commits and rollbacks
among them. -/
inductive Session.IsReached : Session → Prop where
  | start (steps : List Step) : IsReached (Session.start (reached steps))
  | called {s t : Session} (before : s.IsReached) (c : Step) (done : c.run.run s = .ok () t) :
      IsReached t
  | failed {s t : Session} {f : Fault} (before : s.IsReached) (c : Step)
      (lost : c.run.run s = .error f t) : IsReached t
  | commit {s : Session} (before : s.IsReached) : IsReached s.commit
  | rollback {s : Session} (before : s.IsReached) : IsReached s.rollback

theorem Action.Unwritten.registers {id : Option Int} {ok : Bool} {row : Except Draft.Obstacle Record}
    (h : Unwritten s id ok row f t) : t.working = s.working ∨ t.working = s.committed := by
  cases h with
  | pending _ | full _ _ _ => exact .inl rfl
  | inconsistentRow | unstorable _ | missing _ | inconsistentColumns _ => exact .inr rfl

theorem Action.registers_of_store {id : Option Int} {ok : Bool} {row : Except Draft.Obstacle Record}
    (h : (store id ok row).run s = .error f t) :
    t.working = s.working ∨ t.working = s.committed := by
  rcases unwritten_of_store h with ⟨-, h⟩ | h
  · obtain ⟨-, rfl⟩ := requireStored_eq_error.1 h
    exact .inl rfl
  · exact h.registers

theorem Edit.registers_of_error {e : Edit} (h : e.run.run s = .error f t) :
    t.working = s.working ∨ t.working = s.committed := by
  rcases e.failsStoring s f t h with ⟨-, h⟩ | ⟨d, asked, -, h⟩
  · rw [h]
    exact .inl rfl
  · exact registers_of_store (s := { s with searches := asked }) (saveDraft_eq_error.1 h)

/-- Whatever it fails with, a call leaves the register as it was or as it was committed. -/
theorem Step.registers_of_error {c : Step} (hs : s.working.IsSound)
    (h : c.run.run s = .error f t) : t.working = s.working ∨ t.working = s.committed := by
  cases c with
  | edit e => exact Edit.registers_of_error (run_edit_eq_error.1 h)
  | merge old new w =>
      -- A merge has no defaults, so it always spares the session.
      have hmerge : (Step.merge old new w).HasDefaults Json.IsText := trivial
      obtain ⟨-, h⟩ := Step.spared_of_error hs hmerge h
      rw [h]
      exact .inl rfl

theorem Step.isSound_of_ok {c : Step} (hs : s.working.IsSound) (h : c.run.run s = .ok () t) :
    t.working.IsSound := by
  cases c with
  | edit e =>
      obtain ⟨v, h⟩ := run_edit_eq_ok.1 h
      obtain ⟨hclosure, hv, hupdate⟩ := Edit.admits_of_run hs.table h
      exact hs.update hclosure hv hupdate
  | merge old new w =>
      obtain ⟨m, h⟩ := run_merge_eq_ok.1 h
      rcases Merge.run_cases hs old new w with ⟨r, -, hrun⟩ | ⟨-, hrun⟩ | ⟨m, h', hrun, hh'⟩
      · rw [hrun] at h
        cases h
      · rw [hrun] at h
        cases h
      · rw [hrun] at h
        cases h
        exact hh'

theorem Session.IsReached.isSound (hs : s.IsReached) : s.committed.IsSound ∧ s.working.IsSound := by
  induction hs with
  | start steps =>
      have hg := (reached_apart steps).1
      exact ⟨hg, hg⟩
  | @called s t _ c done ih =>
      have hcommitted : t.committed = s.committed := KeepsCommitted.of_ok done
      refine ⟨?_, Step.isSound_of_ok ih.2 done⟩
      rw [hcommitted]
      exact ih.1
  | @failed s t _ _ c lost ih =>
      -- The defaults may be anything here, so the work of the session may be lost.
      have hcommitted : t.committed = s.committed := KeepsCommitted.of_error lost
      rw [hcommitted]
      refine ⟨ih.1, ?_⟩
      rcases Step.registers_of_error ih.2 lost with h | h
      · rw [h]
        exact ih.2
      · rw [h]
        exact ih.1
  | commit _ ih => exact ⟨ih.2, ih.2⟩
  | rollback _ ih => exact ⟨ih.1, ih.1⟩

/-- In a session that calls were made in, a call that fails leaves everything as it was, whatever was
done before and is not committed. It does not fail in storage, and a merge fails before it touches a
record. -/
theorem failed_call_changes_nothing (hs : s.IsReached) :
    (∀ (c : Step) (f : Fault) (t : Session), c.HasDefaults Json.IsText → c.run.run s = .error f t →
      t.working = s.working ∧ t.committed = s.committed ∧ t.isBroken = s.isBroken ∧
        f.isOfStorage = false) ∧
    ∀ (old new : String) (w : Window) (f : Fault) (t : Session),
      (Merge.run old new w).run s = .error f t →
        s.isBroken = true ∨ ∃ r, Merge.checkNumbers old new = .error r := by
  obtain ⟨-, hs⟩ := hs.isSound
  constructor
  · intro c f t hc h
    obtain ⟨hf, ht⟩ := Step.spared_of_error hs hc h
    rw [ht]
    exact ⟨rfl, rfl, rfl, hf⟩
  · intro old new w f t h
    rcases Merge.run_cases hs old new w with ⟨r, hr, -⟩ | ⟨hb, -⟩ | ⟨m, h', hrun, -⟩
    · exact .inr ⟨r, hr⟩
    · exact .inl hb
    · rw [hrun] at h
      cases h

def LegacyRequest.plain (first second : String) (comment : Option String) : LegacyRequest where
  id := none
  firstNumber := first
  firstReason := .str "VIC"
  secondNumber := second
  secondReason := .str "PER"
  restriction := .str "CELL"
  effective := Moment.earliest.date
  expiry := none
  comment
  authorisedBy := none
  modifiedBy := none

def Step.plain (defaults : SyncDefaults) (first second : String) (comment : Option String) : Step :=
  .edit (.upsert Moment.earliest Moment.earliest defaults (.plain first second comment))

/-- Two prisoners that have an open record, not committed yet, get no second one. -/
theorem failed_call_changes_nothing_conflict :
    ∃ s t : Session, s.IsReached ∧ s.working ≠ s.committed ∧
      (Step.plain {} "B2" "A1" none).HasDefaults Json.IsText ∧
      (Step.plain {} "B2" "A1" none).run.run s = .error (.rejected (.openExists ["B2", "A1"])) t ∧
      t.working = s.working := by
  have htexts : (Step.plain {} "B2" "A1" none).HasDefaults Json.IsText :=
    ⟨⟨_, rfl⟩, ⟨_, rfl⟩, ⟨_, rfl⟩, ⟨_, rfl⟩, ⟨_, rfl⟩⟩
  refine ⟨_, _, .called (.start []) (.plain {} "A1" "B2" none) rfl, by decide, htexts, rfl, ?_⟩
  have hreached := Session.IsReached.called (.start []) (.plain {} "A1" "B2" none) rfl
  exact ((failed_call_changes_nothing hreached).1 _ _ _ htexts rfl).1

/-- The value is a string, with or without halves of surrogate pairs. -/
def Json.IsString (v : Json) : Prop := v.IsText ∨ ∃ codes, v = .surrogates codes

/-- A default that is a string but no text makes a call fail in storage, and what was not committed is
lost with it. -/
theorem half_surrogate_loses_work :
    ∃ (s t : Session) (c : Step), s.IsReached ∧ c.HasDefaults Json.IsString ∧
      c.run.run s = .error .notUnicode t ∧ t.working ≠ s.working := by
  let half : SyncDefaults := { noComment := .surrogates [0xD800] }
  refine ⟨_, _, .plain half "C3" "D4" none,
    .called (.start []) (.plain half "A1" "B2" (some "Kept apart")) rfl, ?_, rfl, by decide⟩
  exact ⟨.inl ⟨_, rfl⟩, .inr ⟨_, rfl⟩, .inl ⟨_, rfl⟩, .inl ⟨_, rfl⟩, .inl ⟨_, rfl⟩⟩

end KeepApart
