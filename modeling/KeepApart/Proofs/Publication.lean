import Mathlib.Data.List.DropRight
import KeepApart.Proofs.Failure
import KeepApart.Proofs.Merge.Survivors

/-!
# What a commit publishes

In a session records are saved and deleted and the work is committed, and whoever makes the calls goes
on when one fails. A refused closure drops the work that was not committed, a record that is not stored
drops nothing. So a commit publishes what was written since the last commit or refused closure, in
order, on top of what was published before.
-/

namespace KeepApart

open KeepApart.Action

/-! ## Calls and what comes of them -/

inductive StorageCall where
  | save (d : Draft)
  | delete (id : Option Int)
  | commit

inductive Write where
  | put (r : Record)
  | remove (id : Option Int)

inductive Outcome where
  | wrote (w : Write)
  | committed
  | failed (f : Fault)

def StorageCall.run : StorageCall → Action Outcome
  | save d => do
    let v ← saveDraft d
    return .wrote (.put v.record)
  | delete id => do
    Action.delete id
    return .wrote (.remove id)
  | commit => do
    Action.commit
    return .committed

/-- Makes a call and goes on whether or not it fails. -/
def Session.perform (s : Session) (c : StorageCall) : Outcome × Session :=
  match c.run.run s with
  | .ok o t => (o, t)
  | .error f t => (.failed f, t)

/-- What came of the calls, in their order, and the session after them. -/
def Session.history (s : Session) (calls : List StorageCall) : List Outcome × Session :=
  let next | (log, s), c => match s.perform c with
    | (o, t) => (log ++ [o], t)
  calls.foldl next ([], s)

/-- A record takes the place of the one with its id, or comes last when there is none. -/
def Register.written (g : Register) : Write → Register
  | .put r => if r.id ∈ g.ids then g.replace r else ⟨g.records ++ [r]⟩
  | .remove id => ⟨g.records.filter fun r => r.id != id⟩

def Fault.isOfClosure : Fault → Bool
  | rejected (.badClosure ..) => true
  | _ => false

namespace Outcome

/-- A commit or a refused closure. -/
def isMark : Outcome → Bool
  | committed => true
  | wrote _ => false
  | failed f => f.isOfClosure

def write? : Outcome → Option Write
  | wrote w => some w
  | _ => none

/-- What was written since the last mark, in order. -/
def unpublished (log : List Outcome) : List Write :=
  (log.rtakeWhile fun o => !o.isMark).filterMap write?

theorem unpublished_concat (log : List Outcome) (o : Outcome) :
    unpublished (log ++ [o]) = if o.isMark then [] else unpublished log ++ o.write?.toList := by
  rw [unpublished, List.rtakeWhile_concat]
  cases ho : o.isMark with
  | true => rfl
  | false => cases hw : o.write? <;> simp [unpublished, hw]

end Outcome

/-! ## One call -/

variable {s t : Session} {c : StorageCall} {o : Outcome} {g : Register}

def Draft.StoredAs (d : Draft) (v : Record) : Prop :=
  { d with id := v.id }.HeldAs v ∧ ∀ n ∈ d.id, v.id = some n

inductive StorageCall.Effect (s : Session) : StorageCall → Outcome → Session → Prop where
  | saved {d : Draft} {v : Record} (ready : s.isBroken = false) (stored : d.StoredAs v) :
      Effect s (.save d) (.wrote (.put v)) { s with working := s.working.written (.put v) }
  | deleted {id : Option Int} (ready : s.isBroken = false) :
      Effect s (.delete id) (.wrote (.remove id))
        { s with working := s.working.written (.remove id) }
  | committed (ready : s.isBroken = false) : Effect s .commit .committed s.commit
  | refused {d : Draft} (cause : BadClosure) :
      Effect s (.save d) (.failed (.rejected (.badClosure cause d.id))) s.rollback
  | unstorable {d : Draft} {v : Json} {f : Fault} (given : v ∈ d.values)
      (held : Column.text v = .error f) : Effect s (.save d) (.failed f) s.fail
  | missing {c : StorageCall} {id : Option Int} (unknown : ∀ n ∈ id, s.working.find? n = none) :
      Effect s c (.failed (.notStored id)) s
  | pending {c : StorageCall} (broken : s.isBroken = true) : Effect s c (.failed .pendingRollback) s
  | overflow {c : StorageCall} : Effect s c (.failed .overflow) s

theorem Register.add_eq_written (g : Register) (r : Record) :
    g.add r = g.written (.put (g.identified r)) := by
  have hfresh : (g.identified r).id ∉ g.ids := by
    intro h
    obtain ⟨e, he, hid⟩ := List.mem_map.1 h
    exact Register.id_ne_identified he hid
  rw [Register.written, if_neg hfresh]
  rfl

namespace StorageCall

theorem effect_of_missing {c : StorageCall} {id : Option Int} {f : Fault}
    (h : (requireStored id).run s = .error f t) : Effect s c (.failed f) t := by
  obtain ⟨⟨hb, rfl⟩ | ⟨-, ⟨rfl, rfl⟩ | ⟨n, rfl, ⟨-, rfl⟩ | ⟨-, hnone, rfl⟩⟩⟩, rfl⟩ :=
    requireStored_eq_error.1 h
  · exact .pending hb
  · exact .missing nofun
  · exact .overflow
  · refine .missing ?_
    rintro m ⟨⟩
    simpa [Register.find?] using hnone

theorem effect_of_save {d : Draft} {v : Saved} (h : (saveDraft d).run s = .ok v t) :
    Effect s (.save d) (.wrote (.put v.record)) t := by
  simp only [saveDraft, bind_eq_ok, pure_eq_ok] at h
  obtain ⟨r, _, h, rfl, rfl⟩ := h
  obtain ⟨hstored, h⟩ := store_eq_ok.1 h
  obtain ⟨-, r, hr, -, h⟩ := write_eq_ok.1 h
  have hr : d.HeldAs r := Draft.record_eq_ok.1 hr
  obtain ⟨hb, ⟨hnone, -, rfl, rfl⟩ | ⟨hsome, rfl, rfl⟩⟩ := put_eq_ok.1 h
  -- A new id is above all that are in use, and one that was handed in was looked up before.
  · have hnew : ∀ n ∈ d.id, (s.working.identified r).id = some n := by
      intro n hn
      rw [← hr.id, hnone] at hn
      cases hn
    rw [Register.add_eq_written]
    exact .saved hb ⟨{ hr with id := rfl }, hnew⟩
  · obtain ⟨n, hn⟩ := Option.ne_none_iff_exists'.1 hsome
    obtain ⟨-, -, e, he, heid⟩ := hstored n (hr.id.symm.trans hn)
    have hmem : r.id ∈ s.working.ids := List.mem_map.2 ⟨e, he, heid.trans hn.symm⟩
    have hreplace : s.working.replace r = s.working.written (.put r) := (if_pos hmem).symm
    rw [hreplace]
    exact .saved hb ⟨{ hr with id := rfl }, fun m hm => hr.id.trans hm⟩

theorem effect_of_save_error {d : Draft} {f : Fault} (h : (saveDraft d).run s = .error f t) :
    Effect s (.save d) (.failed f) t := by
  rcases unwritten_of_store (saveDraft_eq_error.1 h) with ⟨-, h⟩ | h
  · exact effect_of_missing h
  · generalize d.closureConsistent = ok at h
    generalize hrow : d.record = row at h
    cases h with
    | inconsistentRow => exact .refused _
    | pending broken => exact .pending broken
    | unstorable fault =>
        obtain ⟨v, hv, hfault⟩ := Draft.exists_of_unstorable hrow
        exact .unstorable hv hfault
    | missing text => exact .refused _
    | inconsistentColumns _ => exact .refused _
    | full _ _ _ => exact .overflow

theorem effect_of_delete {id : Option Int} {u : Unit} (h : (Action.delete id).run s = .ok u t) :
    Effect s (.delete id) (.wrote (.remove id)) t := by
  obtain ⟨hb, n, rfl, -, -, rfl⟩ := delete_eq_ok.1 h
  exact .deleted hb

theorem effect_of_delete_error {id : Option Int} {f : Fault}
    (h : (Action.delete id).run s = .error f t) : Effect s (.delete id) (.failed f) t := by
  simp only [Action.delete, bind_eq_error, requireStored_eq_ok, register_eq_error, register_eq_ok,
    setRegister_ne_error, and_false, exists_false, or_false] at h
  rcases h with h | ⟨_, _, ⟨-, -, -, -, rfl⟩, hb, rfl, rfl⟩
  · exact effect_of_missing h
  · exact .pending hb

theorem commit_eq_ok {u : Unit} :
    Action.commit.run s = .ok u t ↔ s.isBroken = false ∧ s.commit = t := by
  simp only [Action.commit, bind_eq_ok, register_eq_ok]
  constructor
  · rintro ⟨_, _, ⟨hb, -, rfl⟩, h⟩
    cases h
    exact ⟨hb, rfl⟩
  · rintro ⟨hb, rfl⟩
    exact ⟨_, s, ⟨hb, rfl, rfl⟩, rfl⟩

theorem commit_eq_error {f : Fault} :
    Action.commit.run s = .error f t ↔ s.isBroken = true ∧ .pendingRollback = f ∧ s = t := by
  rw [Action.commit, bind_eq_error, register_eq_error]
  constructor
  · rintro (h | ⟨_, _, -, h⟩)
    · exact h
    · cases h
  · exact .inl

theorem effect_of_perform (s : Session) (c : StorageCall) :
    Effect s c (s.perform c).1 (s.perform c).2 := by
  unfold Session.perform
  cases h : c.run.run s with
  | ok o t =>
      cases c with
      | save d =>
          simp only [run, bind_eq_ok, pure_eq_ok] at h
          obtain ⟨v, _, h, rfl, rfl⟩ := h
          exact effect_of_save h
      | delete id =>
          simp only [run, bind_eq_ok, pure_eq_ok] at h
          obtain ⟨_, _, h, rfl, rfl⟩ := h
          exact effect_of_delete h
      | commit =>
          simp only [run, bind_eq_ok, commit_eq_ok, pure_eq_ok] at h
          obtain ⟨_, _, ⟨hb, rfl⟩, rfl, rfl⟩ := h
          exact .committed hb
  | error f t =>
      cases c with
      | save d => exact effect_of_save_error (bind_pure_eq_error.1 h)
      | delete id => exact effect_of_delete_error (bind_pure_eq_error.1 h)
      | commit =>
          obtain ⟨hb, rfl, rfl⟩ := commit_eq_error.1 (bind_pure_eq_error.1 h)
          exact .pending hb

theorem run_of_unknown {n : Int} (hb : s.isBroken = false) (hn : Column.isStorable n = true)
    (hnone : s.working.find? n = none) :
    (∀ d : Draft, d.id = some n → s.perform (.save d) = (.failed (.notStored (some n)), s)) ∧
      s.perform (.delete (some n)) = (.failed (.notStored (some n)), s) := by
  have hall : ∀ e ∈ s.working.records, e.id ≠ some n := by
    simpa [Register.find?] using hnone
  have hmissing : (requireStored (some n)).run s = .error (.notStored (some n)) s :=
    requireStored_eq_error.2 ⟨.inr ⟨hb, .inr ⟨n, rfl, .inr ⟨hn, hall, rfl⟩⟩⟩, rfl⟩
  constructor
  · intro d hd
    have hstore : (store d.id d.closureConsistent d.record).run s =
        .error (.notStored (some n)) s := by
      rw [hd, store, if_pos Option.isSome_some]
      exact bind_eq_error.2 (.inl hmissing)
    have hrun : (save d).run.run s = .error (.notStored (some n)) s :=
      bind_pure_eq_error.2 (saveDraft_eq_error.2 hstore)
    rw [Session.perform, hrun]
  · have hrun : (delete (some n)).run.run s = .error (.notStored (some n)) s :=
      bind_eq_error.2 (.inl (bind_eq_error.2 (.inl hmissing)))
    rw [Session.perform, hrun]

end StorageCall

/-! ## Many calls -/

/-- Unless the session is broken, it works on the committed register with what was written since. -/
def Session.Accounts (s : Session) (log : List Outcome) : Prop :=
  s.isBroken = false → s.working = (Outcome.unpublished log).foldl Register.written s.committed

theorem StorageCall.Effect.accounts {log : List Outcome} (hs : s.Accounts log)
    (h : c.Effect s o t) : t.Accounts (log ++ [o]) := by
  intro hb
  rw [Outcome.unpublished_concat]
  cases h with
  | saved ready _ =>
      have hwritten := hs ready
      simp [Outcome.isMark, Outcome.write?, hwritten]
  | deleted ready =>
      have hwritten := hs ready
      simp [Outcome.isMark, Outcome.write?, hwritten]
  | committed ready => rfl
  | refused cause => rfl
  -- The session is broken now, so nothing is asked of it.
  | unstorable given held => cases hb
  | missing unknown => simpa [Outcome.isMark, Fault.isOfClosure, Outcome.write?] using hs hb
  | pending broken => simpa [Outcome.isMark, Fault.isOfClosure, Outcome.write?] using hs hb
  | overflow => simpa [Outcome.isMark, Fault.isOfClosure, Outcome.write?] using hs hb

theorem Session.history_concat (s : Session) (calls : List StorageCall) (c : StorageCall) :
    s.history (calls ++ [c]) =
      ((s.history calls).1 ++ [((s.history calls).2.perform c).1],
        ((s.history calls).2.perform c).2) := by
  rw [Session.history, List.foldl_append]
  rfl

theorem Session.accounts_history (g : Register) (calls : List StorageCall) :
    ((start g).history calls).2.Accounts ((start g).history calls).1 := by
  -- Calls are taken off at the end, because a mark forgets everything in front of it.
  induction calls using List.reverseRecOn with
  | nil => exact fun _ => rfl
  | append_singleton calls c ih =>
      rw [history_concat]
      exact (StorageCall.effect_of_perform _ c).accounts ih

def StorageCall.IsStorable : StorageCall → Prop
  | save d => ∀ v ∈ d.values, ∃ text?, Column.text v = .ok text?
  | _ => True

theorem StorageCall.Effect.ready (hs : s.isBroken = false) (hc : c.IsStorable)
    (h : c.Effect s o t) : t.isBroken = false := by
  cases h with
  | unstorable given held =>
      obtain ⟨text?, htext⟩ := hc _ given
      rw [htext] at held
      cases held
  | refused _ => rfl
  | saved _ _ | deleted _ | committed _ | missing _ | pending _ | overflow => exact hs

theorem Session.ready_history (g : Register) (calls : List StorageCall)
    (hcalls : ∀ c ∈ calls, c.IsStorable) : ((start g).history calls).2.isBroken = false := by
  induction calls using List.reverseRecOn with
  | nil => rfl
  | append_singleton calls c ih =>
      simp only [List.mem_append, List.mem_singleton] at hcalls
      rw [history_concat]
      have hready := ih fun c' hc' => hcalls c' (.inl hc')
      exact (StorageCall.effect_of_perform _ c).ready hready (hcalls c (.inr rfl))

/-- What the next call does in a session in which calls came out like this. -/
structure Session.Publishes (s : Session) (log : List Outcome) : Prop where
  stored : ∀ d v t, s.perform (.save d) = (.wrote (.put v), t) → d.StoredAs v
  unknown : ∀ n, s.isBroken = false → Column.isStorable n = true → s.working.find? n = none →
    (∀ d : Draft, d.id = some n → s.perform (.save d) = (.failed (.notStored (some n)), s)) ∧
      s.perform (.delete (some n)) = (.failed (.notStored (some n)), s)
  missing : ∀ c id t, s.perform c = (.failed (.notStored id), t) →
    t = s ∧ ∀ n ∈ id, s.working.find? n = none
  refused : ∀ c cause id t, s.perform c = (.failed (.rejected (.badClosure cause id)), t) →
    t.working = s.committed ∧ t.committed = s.committed
  unmarked : ∀ c o t, s.perform c = (o, t) → o = .committed ∨ t.committed = s.committed
  published : ∀ t, s.perform .commit = (.committed, t) →
    t.working = t.committed ∧
      t.committed = (Outcome.unpublished log).foldl Register.written s.committed

theorem Session.Accounts.publishes {log : List Outcome} (hs : s.Accounts log) :
    s.Publishes log := by
  have heffect {c : StorageCall} {o : Outcome} {t : Session} (h : s.perform c = (o, t)) :
      c.Effect s o t := by
    have h' := StorageCall.effect_of_perform s c
    rwa [h] at h'
  refine ⟨?_, fun n => StorageCall.run_of_unknown, ?_, ?_, ?_, ?_⟩
  · intro d v t h
    cases heffect h with
    | saved _ stored => exact stored
  · intro c id t h
    cases heffect h with
    | missing unknown => exact ⟨rfl, unknown⟩
    | unstorable given held => rcases Column.fault_of_text held with h | h | h <;> cases h
  · intro c cause id t h
    cases heffect h with
    | refused _ => exact ⟨rfl, rfl⟩
    | unstorable given held => rcases Column.fault_of_text held with h | h | h <;> cases h
  · intro c o t h
    cases heffect h with
    | committed _ => exact .inl rfl
    | saved _ _ | deleted _ | refused _ | unstorable _ _ | missing _ | pending _ | overflow =>
        exact .inr rfl
  · intro t h
    cases heffect h with
    | committed ready => exact ⟨rfl, hs ready⟩

/-- In a session in which records were saved and deleted and work was committed, whatever failed, a
commit publishes what was written since the last commit or refused closure on top of what was published
before. It fails only when a value was handed in that storage cannot hold. -/
theorem commits_publish_writes_since_mark {calls : List StorageCall} {log : List Outcome}
    (h : (Session.start g).history calls = (log, s)) :
    s.Publishes log ∧
      ((∀ c ∈ calls, c.IsStorable) → s.perform .commit = (.committed, s.commit)) := by
  have haccounts := Session.accounts_history g calls
  have hready := Session.ready_history g calls
  rw [h] at haccounts hready
  refine ⟨haccounts.publishes, ?_⟩
  intro hcalls
  have hrun : StorageCall.commit.run.run s = .ok .committed s.commit :=
    bind_eq_ok.2 ⟨(), _, StorageCall.commit_eq_ok.2 ⟨hready hcalls, rfl⟩, rfl⟩
  rw [Session.perform, hrun]

def Draft.plain (first second : String) : Draft :=
  { (Merge.plain 0 first second).draft with id := none }

/-- One record is published. Then it is deleted and another one saved, but an open record with a moment
of closure is refused and both are lost; a record that is not stored loses nothing of what follows. -/
def StorageCall.mixed : List StorageCall :=
  [.save (.plain "A1" "B2"), .commit, .delete (some 1), .save (.plain "A1" "C3"),
    .save { Draft.plain "A1" "C3" with closedAt := some Moment.earliest }, .save (.plain "A1" "D4"),
    .save (Merge.plain 9 "A1" "E5").draft]

theorem commits_publish_writes_since_mark_mixed :
    ∃ (log : List Outcome) (s t : Session),
      (Session.start .empty).history StorageCall.mixed = (log, s) ∧
        s.perform .commit = (.committed, t) ∧
        s.committed.records = [Merge.plain 1 "A1" "B2"] ∧
        Outcome.unpublished log = [.put (Merge.plain 2 "A1" "D4")] ∧
        t.committed.records = [Merge.plain 1 "A1" "B2", Merge.plain 2 "A1" "D4"] := by
  have hrun : (Session.start .empty).history StorageCall.mixed = (_, _) := rfl
  obtain ⟨hpublishes, -⟩ := commits_publish_writes_since_mark hrun
  have hpublished := (hpublishes.published _ rfl).2
  have hrecords := congrArg Register.records hpublished
  exact ⟨_, _, _, hrun, rfl, rfl, rfl, hrecords⟩

end KeepApart
