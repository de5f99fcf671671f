import KeepApart.Proofs.Publication

/-!
# What a unit of work leaves behind

The body of a unit of work saves and deletes records, commits and rolls back, until it ends or fails.
What was written lasts when the next commit or rollback after it is a commit. So the register that is
left is the one that the body saw at its last commit, however it went on from there.
-/

namespace KeepApart

open KeepApart.Action

/-! ## Bodies -/

inductive BodyStep where
  | save (d : Draft)
  | delete (id : Option Int)
  | commit
  | rollback
  | fail (f : Fault)

inductive Deed where
  | wrote (w : Write)
  | committed
  | rolledBack

namespace BodyStep

def run : BodyStep → Action Deed
  | save d => do
    let v ← saveDraft d
    return .wrote (.put v.record)
  | delete id => do
    Action.delete id
    return .wrote (.remove id)
  | commit => do
    Action.commit
    return .committed
  | rollback => do
    modify Session.rollback
    return .rolledBack
  | fail f => throw f

def isCommit : BodyStep → Bool
  | commit => true
  | _ => false

def runAll (body : List BodyStep) : Action (List Deed) := body.mapM run

variable {x : BodyStep} {body : List BodyStep} {es : List Deed} {s t : Session} {f : Fault}

theorem runAll_nil_eq_ok : (runAll []).run s = .ok es t ↔ [] = es ∧ s = t := by
  rw [runAll, List.mapM_nil, pure_eq_ok]

theorem runAll_cons_eq_ok : (runAll (x :: body)).run s = .ok es t ↔
    ∃ d u ds, x.run.run s = .ok d u ∧ (runAll body).run u = .ok ds t ∧ d :: ds = es := by
  simp only [runAll, List.mapM_cons, bind_eq_ok, pure_eq_ok]
  constructor
  · rintro ⟨d, u, hx, ds, _, hbody, rfl, rfl⟩
    exact ⟨d, u, ds, hx, hbody, rfl⟩
  · rintro ⟨d, u, ds, hx, hbody, rfl⟩
    exact ⟨d, u, hx, ds, t, hbody, rfl, rfl⟩

theorem runAll_cons_eq_error : (runAll (x :: body)).run s = .error f t ↔
    x.run.run s = .error f t ∨ ∃ d u, x.run.run s = .ok d u ∧ (runAll body).run u = .error f t := by
  rw [runAll, List.mapM_cons, bind_eq_error]
  simp only [bind_pure_eq_error]
  rfl

theorem exists_failed (h : (runAll body).run s = .error f t) :
    ∃ made x more ds u, body = made ++ x :: more ∧ (runAll made).run s = .ok ds u ∧
      x.run.run u = .error f t := by
  induction body generalizing s with
  | nil => exact absurd h pure_ne_error
  | cons x body ih =>
      rcases runAll_cons_eq_error.1 h with h | ⟨d, u, hx, h⟩
      · exact ⟨[], x, body, [], s, rfl, rfl, h⟩
      · obtain ⟨made, y, more, ds, v, rfl, hmade, hy⟩ := ih h
        have hrun : (runAll (x :: made)).run s = .ok (d :: ds) v :=
          runAll_cons_eq_ok.2 ⟨d, u, ds, hx, hmade, rfl⟩
        exact ⟨x :: made, y, more, d :: ds, v, rfl, hrun, hy⟩

end BodyStep

/-! ## Writes that last -/

namespace Deed

def isCommit : Deed → Bool
  | committed => true
  | _ => false

/-- Do these deeds take back what was written before them? The first commit or rollback decides, and
without one whatever comes afterwards. -/
def takeBack (afterwards : Bool) : List Deed → Bool
  | [] => afterwards
  | wrote _ :: ds => takeBack afterwards ds
  | committed :: _ => false
  | rolledBack :: _ => true

def lasting (afterwards : Bool) : List Deed → List Write
  | [] => []
  | wrote w :: ds =>
    if takeBack afterwards ds then lasting afterwards ds else w :: lasting afterwards ds
  | committed :: ds | rolledBack :: ds => lasting afterwards ds

def seen (g : Register) (ds : List Deed) : Register :=
  (lasting false ds).foldl Register.written g

def untilCommit (ds : List Deed) : List Deed :=
  ds.rdropWhile fun d => !d.isCommit

variable (b : Bool) (ds es : List Deed)

theorem takeBack_append : takeBack b (ds ++ es) = takeBack (takeBack b es) ds := by
  induction ds with
  | nil => rfl
  | cons d ds ih =>
      cases d with
      | wrote w => exact ih
      | committed => rfl
      | rolledBack => rfl

theorem lasting_append : lasting b (ds ++ es) = lasting (takeBack b es) ds ++ lasting b es := by
  induction ds with
  | nil => rfl
  | cons d ds ih =>
      cases d with
      | wrote w =>
          simp only [List.cons_append, lasting, takeBack_append, ih]
          split <;> rfl
      | committed => exact ih
      | rolledBack => exact ih

theorem untilCommit_concat (d : Deed) :
    untilCommit (ds ++ [d]) = if d.isCommit then ds ++ [d] else untilCommit ds := by
  rw [untilCommit, List.rdropWhile_concat]
  cases d.isCommit <;> rfl

/-- A rollback now would leave what was there at the last commit. -/
theorem lasting_true : lasting true ds = lasting false (untilCommit ds) := by
  induction ds using List.reverseRecOn with
  | nil => rfl
  | append_singleton ds d ih =>
      rw [untilCommit_concat]
      cases d with
      | wrote w => simpa [lasting_append, lasting, takeBack, isCommit] using ih
      | committed => simp [lasting_append, lasting, takeBack, isCommit]
      | rolledBack => simpa [lasting_append, lasting, takeBack, isCommit] using ih

variable (g : Register)

theorem seen_wrote (w : Write) : seen g (ds ++ [wrote w]) = (seen g ds).written w := by
  simp [seen, lasting_append, lasting, takeBack]

theorem seen_committed : seen g (ds ++ [committed]) = seen g ds := by
  simp [seen, lasting_append, lasting, takeBack]

theorem seen_rolledBack : seen g (ds ++ [rolledBack]) = seen g (untilCommit ds) := by
  simp [seen, lasting_append, lasting, takeBack, lasting_true]

variable {ds}

theorem untilCommit_eq_nil (hds : ∀ d ∈ ds, d.isCommit = false) : untilCommit ds = [] := by
  rw [untilCommit, List.rdropWhile_eq_nil_iff]
  intro d hd
  rw [hds d hd]
  rfl

end Deed

/-! ## Sessions of bodies -/

variable {g : Register} {s t : Session} {ds : List Deed} {d : Deed} {x : BodyStep} {f : Fault}

structure Session.Follows (s : Session) (g : Register) (ds : List Deed) : Prop where
  ready : s.isBroken = false
  working : s.working = Deed.seen g ds
  committed : s.committed = Deed.seen g (Deed.untilCommit ds)

theorem Session.Follows.wrote (hs : s.Follows g ds) (w : Write) :
    { s with working := s.working.written w }.Follows g (ds ++ [Deed.wrote w]) := by
  refine ⟨hs.ready, ?_, ?_⟩
  · rw [Deed.seen_wrote, ← hs.working]
  · rw [Deed.untilCommit_concat]
    exact hs.committed

theorem Session.Follows.step (hs : s.Follows g ds) (h : x.run.run s = .ok d t) :
    t.Follows g (ds ++ [d]) := by
  cases x with
  | save e =>
      simp only [BodyStep.run, bind_eq_ok, pure_eq_ok] at h
      obtain ⟨v, _, h, rfl, rfl⟩ := h
      cases StorageCall.effect_of_save h with
      | saved _ _ => exact hs.wrote (.put v.record)
  | delete id =>
      simp only [BodyStep.run, bind_eq_ok, pure_eq_ok] at h
      obtain ⟨_, _, h, rfl, rfl⟩ := h
      cases StorageCall.effect_of_delete h with
      | deleted _ => exact hs.wrote (.remove id)
  | commit =>
      simp only [BodyStep.run, bind_eq_ok, StorageCall.commit_eq_ok, pure_eq_ok] at h
      obtain ⟨_, _, ⟨ready, rfl⟩, rfl, rfl⟩ := h
      have hseen : s.working = Deed.seen g (ds ++ [.committed]) := by
        rw [Deed.seen_committed, hs.working]
      exact ⟨ready, hseen, by rw [Deed.untilCommit_concat]; exact hseen⟩
  | rollback =>
      simp only [BodyStep.run, bind_eq_ok, EStateM.run_modify, EStateM.Result.ok.injEq,
        pure_eq_ok] at h
      obtain ⟨_, _, ⟨-, rfl⟩, rfl, rfl⟩ := h
      refine ⟨rfl, ?_, ?_⟩
      · rw [Deed.seen_rolledBack]
        exact hs.committed
      · rw [Deed.untilCommit_concat]
        exact hs.committed
  | fail e => exact absurd h throw_ne_ok

theorem Session.Follows.steps {body : List BodyStep} {es : List Deed} (hs : s.Follows g ds)
    (h : (BodyStep.runAll body).run s = .ok es t) : t.Follows g (ds ++ es) := by
  induction body generalizing s ds es with
  | nil =>
      obtain ⟨rfl, rfl⟩ := BodyStep.runAll_nil_eq_ok.1 h
      rwa [List.append_nil]
  | cons x body ih =>
      obtain ⟨d, u, es, hx, hbody, rfl⟩ := BodyStep.runAll_cons_eq_ok.1 h
      rw [List.append_cons]
      exact ih (hs.step hx) hbody

theorem Session.follows_start (g : Register) : (Session.start g).Follows g [] :=
  ⟨rfl, rfl, rfl⟩

theorem BodyStep.committed_of_error (h : x.run.run s = .error f t) :
    t.committed = s.committed := by
  cases x with
  | save e => exact KeepsCommitted.of_error (bind_pure_eq_error.1 h)
  | delete id => exact KeepsCommitted.of_error (bind_pure_eq_error.1 h)
  | commit =>
      obtain ⟨-, -, rfl⟩ := StorageCall.commit_eq_error.1 (bind_pure_eq_error.1 h)
      rfl
  | rollback => cases h
  | fail e =>
      obtain ⟨-, rfl⟩ := throw_eq_error.1 h
      rfl

theorem BodyStep.deed_isCommit (h : x.run.run s = .ok d t) : d.isCommit = x.isCommit := by
  cases x with
  | save e | delete id | commit | rollback =>
      simp only [BodyStep.run, bind_eq_ok, pure_eq_ok] at h
      obtain ⟨_, _, -, rfl, -⟩ := h
      rfl
  | fail e => exact absurd h throw_ne_ok

theorem BodyStep.deeds_isCommit {body : List BodyStep} {ds : List Deed}
    (hbody : ∀ x ∈ body, x.isCommit = false)
    (h : (runAll body).run s = .ok ds t) : ∀ d ∈ ds, d.isCommit = false := by
  induction body generalizing s ds with
  | nil =>
      obtain ⟨rfl, -⟩ := runAll_nil_eq_ok.1 h
      exact List.forall_mem_nil _
  | cons x body ih =>
      obtain ⟨d, u, es, hx, hes, rfl⟩ := runAll_cons_eq_ok.1 h
      obtain ⟨hx', hbody⟩ := List.forall_mem_cons.1 hbody
      exact List.forall_mem_cons.2 ⟨(deed_isCommit hx).trans hx', ih hbody hes⟩

/-! ## Ends of bodies -/

/-- How a body runs on a register: the steps that it makes, what they do, the session in which it is
then, and the outcome. It ends after its last step, or a step fails. -/
inductive BodyStep.Runs (g : Register) (body : List BodyStep) :
    List BodyStep → List Deed → Session → Except Fault (List Deed) → Prop where
  | ended {ds : List Deed} {s : Session} (run : (runAll body).run (Session.start g) = .ok ds s) :
      Runs g body body ds s (.ok ds)
  | failed {made more : List BodyStep} {x : BodyStep} {ds : List Deed} {s t : Session} {f : Fault}
      (split : body = made ++ x :: more) (run : (runAll made).run (Session.start g) = .ok ds s)
      (failure : x.run.run s = .error f t) : Runs g body made ds s (.error f)

/-- A body makes its steps until it ends or one of them fails, and at each point it sees what it has
written so far and not rolled back. What is left behind is what it saw at its last commit, or what was
there before when it made none. In a scope, where the body itself does not commit, everything is left
behind when it ends and nothing when it fails. The outcome of the body is passed on. -/
theorem body_leaves_last_commit (g : Register) (body : List BodyStep) :
    ∃ made ds s outcome, BodyStep.Runs g body made ds s outcome ∧ s.working = Deed.seen g ds ∧
      Storage.unitOfWork (BodyStep.runAll body) g =
        (outcome, Deed.seen g (Deed.untilCommit ds)) ∧
      ((∀ x ∈ body, x.isCommit = false) → Storage.scope (BodyStep.runAll body) g =
        (outcome, match outcome with
          | .ok _ => Deed.seen g ds
          | .error _ => g)) := by
  cases hrun : (BodyStep.runAll body).run (Session.start g) with
  | ok ds s =>
      have hs := (Session.follows_start g).steps hrun
      refine ⟨body, ds, s, .ok ds, .ended hrun, hs.working, ?_, ?_⟩
      · have hcommitted := hs.committed
        simp only [Storage.unitOfWork, hrun, hcommitted]
        rfl
      · intro _
        have hworking := hs.working
        simp only [Storage.scope, Session.transact, hrun, Session.commit]
        rw [hworking]
        rfl
  | error f t =>
      obtain ⟨made, x, more, ds, s, hsplit, hmade, hx⟩ := BodyStep.exists_failed hrun
      have hs := (Session.follows_start g).steps hmade
      have hcommitted := (BodyStep.committed_of_error hx).trans hs.committed
      refine ⟨made, ds, s, .error f, .failed hsplit hmade hx, hs.working, ?_, ?_⟩
      · simp only [Storage.unitOfWork, hrun, hcommitted]
        rfl
      · intro hbody
        have hnone : Deed.untilCommit ds = [] := by
          apply Deed.untilCommit_eq_nil
          apply BodyStep.deeds_isCommit _ hmade
          intro y hy
          exact hbody y (hsplit ▸ List.mem_append_left _ hy)
        rw [List.nil_append, hnone] at hcommitted
        simp only [Storage.scope, Session.transact, hrun, Session.rollback, hcommitted]
        rfl

/-- What is written after the commit is rolled back or lost with the failure. -/
example : (Storage.unitOfWork (BodyStep.runAll [.save (.plain "A1" "B2"), .commit,
    .save (.plain "A1" "C3"), .rollback, .delete (some 1), .fail .noStorage]) .empty).2.records =
      [Merge.plain 1 "A1" "B2"] := rfl

end KeepApart
