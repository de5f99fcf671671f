import Mathlib.Tactic.Common
import KeepApart.Context
import KeepApart.Proofs.Draft
import KeepApart.Proofs.Table
import KeepApart.Storage.UnitOfWork

/-!
# Runs of actions

For every basic action there is one equivalence that says when it succeeds, with what and in which
session. An action that is made of them is taken apart by rewriting with these. No action but a commit
touches the committed register, not even one that fails.
-/

namespace KeepApart.Action

variable {α β : Type} {s t : Session}

theorem pure_eq_ok {a b : α} : (pure a : Action α).run s = .ok b t ↔ a = b ∧ s = t := by
  rw [EStateM.run_pure, EStateM.Result.ok.injEq]

theorem bind_eq_ok {x : Action α} {f : α → Action β} {b : β} :
    (x >>= f).run s = .ok b t ↔ ∃ a u, x.run s = .ok a u ∧ (f a).run u = .ok b t := by
  rw [EStateM.run_bind]
  cases x.run s <;> simp

theorem throw_ne_ok {e : Fault} {a : α} : (throw e : Action α).run s ≠ .ok a t := by
  intro h
  cases h

theorem reject_ne_ok {r : Rejection} {a : α} : (reject r : Action α).run s ≠ .ok a t :=
  throw_ne_ok

/-- Past a check that throws, the guard did not hold. -/
theorem guard_throw_eq_ok {c : Prop} [Decidable c] {e : Fault} {f : β → Action α} {act : Action α}
    {a : α} : (if c then throw e >>= f else act).run s = .ok a t ↔ ¬ c ∧ act.run s = .ok a t := by
  by_cases hc : c
  · rw [if_pos hc, bind_eq_ok]
    simp [hc, throw_ne_ok]
  · rw [if_neg hc]
    simp [hc]

theorem guard_reject_eq_ok {c : Prop} [Decidable c] {r : Rejection} {f : β → Action α}
    {act : Action α} {a : α} :
    (if c then reject r >>= f else act).run s = .ok a t ↔ ¬ c ∧ act.run s = .ok a t :=
  guard_throw_eq_ok

theorem check_eq_ok {x : Except Rejection α} {a : α} :
    (check x).run s = .ok a t ↔ x = .ok a ∧ s = t := by
  cases x with
  | ok b => simp [check]
  | error r => simp [check, reject_ne_ok]

theorem attempt_eq_ok {x : Except Fault α} {a : α} :
    (attempt x).run s = .ok a t ↔ x = .ok a ∧ s = t := by
  cases x with
  | ok b => simp [attempt]
  | error e => simp [attempt, throw_ne_ok]

theorem register_eq_ok {g : Register} :
    register.run s = .ok g t ↔ s.isBroken = false ∧ s.working = g ∧ s = t := by
  cases hb : s.isBroken with
  | false => rw [run_register hb]; simp
  | true =>
      have hthrow : register.run s = .error .pendingRollback s := by
        obtain ⟨_, _, _, b⟩ := s
        obtain rfl : b = true := hb
        rfl
      simp [hthrow]

theorem setRegister_eq_ok {g : Register} {u : Unit} :
    (setRegister g).run s = .ok u t ↔ { s with working := g } = t := by
  rw [setRegister, EStateM.run_modify]
  simp

theorem find?_eq_ok {id : Int} {r : Option Record} :
    (find? id).run s = .ok r t ↔
      s.isBroken = false ∧ Column.isStorable id = true ∧ s.working.find? id = r ∧ s = t := by
  simp only [find?, bind_eq_ok, register_eq_ok]
  by_cases h : Column.isStorable id = true
  · simp [h]
  · simp [h, throw_ne_ok]

/-! ## Writing -/

theorem rejectAll_ne_ok {r : Rejection} {a : α} : (rejectAll r : Action α).run s ≠ .ok a t := by
  intro h
  cases h

theorem requireStored_eq_ok {id : Option Int} {n : Int} :
    (requireStored id).run s = .ok n t ↔
      s.isBroken = false ∧ id = some n ∧ Column.isStorable n = true ∧
        (∃ e ∈ s.working.records, e.id = some n) ∧ s = t := by
  cases id with
  | none =>
      simp only [requireStored, bind_eq_ok, throw_ne_ok, and_false, exists_false, reduceCtorEq,
        false_and]
  | some m =>
      have hstored : (s.working.find? m).isNone = true ↔ ¬ ∃ e ∈ s.working.records, e.id = some m := by
        simp [Register.find?]
      simp only [requireStored, bind_eq_ok, find?_eq_ok]
      constructor
      · rintro ⟨r, u, ⟨hb, hn, rfl, rfl⟩, h⟩
        by_cases hnone : (s.working.find? m).isNone = true
        · rw [if_pos hnone] at h
          exact absurd h throw_ne_ok
        · rw [if_neg hnone, pure_eq_ok] at h
          obtain ⟨rfl, rfl⟩ := h
          exact ⟨hb, rfl, hn, not_not.1 (hstored.not.1 hnone), rfl⟩
      · rintro ⟨hb, hid, hn, he, rfl⟩
        obtain rfl := Option.some.inj hid
        refine ⟨_, s, ⟨hb, hn, rfl, rfl⟩, ?_⟩
        rw [if_neg (hstored.not.2 (not_not.2 he)), pure_eq_ok]
        exact ⟨rfl, rfl⟩

theorem delete_eq_ok {id : Option Int} {u : Unit} :
    (delete id).run s = .ok u t ↔
      s.isBroken = false ∧ ∃ n, id = some n ∧ Column.isStorable n = true ∧
        (∃ e ∈ s.working.records, e.id = some n) ∧
          { s with working := s.working.remove n } = t := by
  simp only [delete, bind_eq_ok, requireStored_eq_ok, register_eq_ok, setRegister_eq_ok]
  constructor
  · rintro ⟨n, _, ⟨hb, hid, hn, he, rfl⟩, _, _, ⟨-, rfl, rfl⟩, rfl⟩
    exact ⟨hb, n, hid, hn, he, rfl⟩
  · rintro ⟨hb, n, hid, hn, he, rfl⟩
    exact ⟨n, s, ⟨hb, hid, hn, he, rfl⟩, _, s, ⟨hb, rfl, rfl⟩, rfl⟩

theorem put_eq_ok {r v : Record} :
    (put r).run s = .ok v t ↔
      s.isBroken = false ∧
        ((r.id = none ∧ Column.isStorable (s.working.lastId + 1) = true ∧
            s.working.identified r = v ∧ { s with working := s.working.add r } = t) ∨
          (r.id ≠ none ∧ r = v ∧ { s with working := s.working.replace r } = t)) := by
  simp only [put, bind_eq_ok, register_eq_ok]
  cases hid : r.id with
  | none =>
      simp only [guard_throw_eq_ok, bind_eq_ok, setRegister_eq_ok, pure_eq_ok]
      simp
  | some n =>
      simp only [bind_eq_ok, setRegister_eq_ok, pure_eq_ok]
      simp

/-- The closure of a row that is written is consistent, as handed in and as storage holds it. -/
theorem write_eq_ok {id : Option Int} {ok : Bool} {row : Except Draft.Obstacle Record} {v : Record} :
    (write id ok row).run s = .ok v t ↔
      ok = true ∧ ∃ r, row = .ok r ∧ r.closureConsistent = true ∧ (put r).run s = .ok v t := by
  cases ok with
  | false => simp [write, rejectAll_ne_ok]
  | true =>
      match row with
      | .error (.unstorable fault) =>
          simp [-EStateM.run_bind, write, bind_eq_ok, throw_ne_ok]
      | .error (.missing text) =>
          simp [-EStateM.run_bind, write, bind_eq_ok, rejectAll_ne_ok]
      | .ok r =>
          have hbroken : (put r).run s = .ok v t → s.isBroken = false := fun h => (put_eq_ok.1 h).1
          by_cases hr : r.closureConsistent = true
          · simpa [-EStateM.run_bind, write, bind_eq_ok, register_eq_ok, hr] using hbroken
          · simp [-EStateM.run_bind, write, bind_eq_ok, hr, rejectAll_ne_ok]

theorem store_eq_ok {id : Option Int} {ok : Bool} {row : Except Draft.Obstacle Record} {v : Record} :
    (store id ok row).run s = .ok v t ↔
      (∀ n, id = some n → s.isBroken = false ∧ Column.isStorable n = true ∧
          ∃ e ∈ s.working.records, e.id = some n) ∧
        (write id ok row).run s = .ok v t := by
  cases id with
  | none => simp [store]
  | some n =>
      simp only [store, bind_eq_ok, Option.isSome_some, if_true, requireStored_eq_ok]
      constructor
      · rintro ⟨m, u, ⟨hb, hid, hn, he, rfl⟩, h⟩
        obtain rfl := Option.some.inj hid
        refine ⟨?_, h⟩
        rintro m ⟨⟩
        exact ⟨hb, hn, he⟩
      · rintro ⟨hid, h⟩
        obtain ⟨hb, hn, he⟩ := hid n rfl
        exact ⟨n, s, ⟨hb, rfl, hn, he, rfl⟩, h⟩

theorem stores_of_store {id : Option Int} {ok : Bool} {row : Except Draft.Obstacle Record}
    {v : Record} (hg : s.working.IsTable) (hid : ∀ r, row = .ok r → r.id = id)
    (h : (store id ok row).run s = .ok v t) :
    ∃ r, row = .ok r ∧ s.working.Stores r v t.working := by
  obtain ⟨hstored, h⟩ := store_eq_ok.1 h
  obtain ⟨-, r, hrow, hr, h⟩ := write_eq_ok.1 h
  obtain ⟨-, ⟨hnone, hn, rfl, rfl⟩ | ⟨hsome, rfl, rfl⟩⟩ := put_eq_ok.1 h
  · exact ⟨r, hrow, hr, hg.isUpdate_add hn r, .inl ⟨hnone, rfl⟩⟩
  · obtain ⟨n, hn⟩ := Option.ne_none_iff_exists'.1 hsome
    obtain ⟨-, -, e, he, heid⟩ := hstored n ((hid r hrow).symm.trans hn)
    have hsame : e.id = r.id := heid.trans hn.symm
    exact ⟨r, hrow, hr, hg.isUpdate_replace he hsame, .inr ⟨rfl, e, he, hsame⟩⟩

theorem stores_of_saveDraft {d : Draft} {v : Saved} (hg : s.working.IsTable)
    (h : (saveDraft d).run s = .ok v t) :
    ∃ r, d.HeldAs r ∧ s.working.Stores r v.record t.working := by
  simp only [saveDraft, bind_eq_ok, pure_eq_ok] at h
  obtain ⟨w, _, h, rfl, rfl⟩ := h
  have hid : ∀ r, d.record = .ok r → r.id = d.id := fun r hr => (Draft.record_eq_ok.1 hr).id
  obtain ⟨r, hr, hstores⟩ := stores_of_store hg hid h
  exact ⟨r, Draft.record_eq_ok.1 hr, hstores⟩

theorem stores_of_save {r v : Record} (hg : s.working.IsTable) (h : (save r).run s = .ok v t) :
    s.working.Stores r v t.working := by
  have hid : ∀ q, Except.ok (ε := Draft.Obstacle) r = .ok q → q.id = r.id := by
    rintro q ⟨⟩
    rfl
  obtain ⟨q, hq, hstores⟩ := stores_of_store hg hid h
  obtain rfl := Except.ok.inj hq
  exact hstores

theorem run_save_over {r : Record} {n : Int} (hs : s.isBroken = false)
    (hclosure : r.closureConsistent = true) (hid : r.id = some n)
    (hn : Column.isStorable n = true) (he : ∃ e ∈ s.working.records, e.id = some n) :
    (save r).run s = .ok r { s with working := s.working.replace r } := by
  rw [save, store_eq_ok, write_eq_ok]
  refine ⟨?_, hclosure, r, rfl, hclosure, ?_⟩
  · intro k hk
    obtain rfl := Option.some.inj (hid.symm.trans hk)
    exact ⟨hs, hn, he⟩
  · have hsome : r.id ≠ none := by simp [hid]
    exact put_eq_ok.2 ⟨hs, .inr ⟨hsome, rfl, rfl⟩⟩

theorem saveDraft_over_eq_ok {d : Draft} {v : Saved} {n : Int} (hid : d.id = some n) :
    (saveDraft d).run s = .ok v t ↔
      s.isBroken = false ∧ Column.isStorable n = true ∧ (∃ e ∈ s.working.records, e.id = some n) ∧
        d.closureConsistent = true ∧ d.HeldAs v.record ∧ v.record.closureConsistent = true ∧
          v.given = d ∧ { s with working := s.working.replace v.record } = t := by
  simp only [saveDraft, bind_eq_ok, pure_eq_ok, store_eq_ok, write_eq_ok, put_eq_ok,
    Draft.record_eq_ok]
  constructor
  · rintro ⟨r, u, ⟨hstored, hclosure, _, hheld, hr, hb, ⟨hnone, -⟩ | ⟨-, rfl, rfl⟩⟩, rfl, rfl⟩
    · rw [hheld.id, hid] at hnone
      cases hnone
    · obtain ⟨-, hn, he⟩ := hstored n hid
      refine ⟨hb, hn, he, hclosure, hheld, hr, ?_, rfl⟩
      rw [hheld.id]
  · rintro ⟨hb, hn, he, hclosure, hheld, hr, hgiven, rfl⟩
    have hsome : v.record.id ≠ none := by rw [hheld.id, hid]; exact Option.some_ne_none n
    refine ⟨v.record, _, ⟨?_, hclosure, _, hheld, hr, hb, .inr ⟨hsome, rfl, rfl⟩⟩, ?_, rfl⟩
    · intro m hm
      obtain rfl := Option.some.inj (hid.symm.trans hm)
      exact ⟨hb, hn, he⟩
    · obtain ⟨r, given⟩ := v
      obtain rfl : given = d := hgiven
      rw [hheld.id]

/-! ## Checks -/

theorem requireNoOtherOpen_eq_ok {id : Option Int} {first second : String} {u : Unit} :
    (requireNoOtherOpen id first second).run s = .ok u t ↔
      s.isBroken = false ∧ s.working.NoOtherOpen id first second ∧ s = t := by
  rw [← Register.openBetween_filter_eq_nil_iff]
  simp only [requireNoOtherOpen, bind_eq_ok, register_eq_ok]
  by_cases h : ((s.working.openBetween first second).filter fun e => e.id != id) = []
  · simp [h]
  · simp [h, reject_ne_ok]

theorem requireActor_eq_ok {actor : Option String} {name : String} :
    (requireActor actor).run s = .ok name t ↔
      actor = some name ∧ Text.isBlankText name = false ∧ s = t := by
  cases actor with
  | none => simp [requireActor, reject_ne_ok]
  | some other =>
      by_cases h : Text.isBlankText other = true
      · simp only [requireActor, h, if_true, reject_ne_ok, false_iff]
        rintro ⟨heq, hname, -⟩
        rw [← Option.some.inj heq, h] at hname
        cases hname
      · have hname : Text.isBlankText other = false := by simpa using h
        simp only [requireActor, if_neg h, pure_eq_ok, Option.some.injEq]
        constructor
        · rintro ⟨rfl, rfl⟩
          exact ⟨rfl, hname, rfl⟩
        · rintro ⟨rfl, -, rfl⟩
          exact ⟨rfl, rfl⟩

theorem require_eq_ok {id : Int} {r : Record} :
    (require id).run s = .ok r t ↔
      s.isBroken = false ∧ Column.isStorable id = true ∧ s.working.find? id = some r ∧ s = t := by
  simp only [require, bind_eq_ok, find?_eq_ok]
  cases h : s.working.find? id with
  | none => simp [reject_ne_ok]
  | some e => simp [and_assoc]

theorem lookUp_eq_ok {ctx : Context} {numbers : List String} {found : Found} :
    (ctx.lookUp numbers).run s = .ok found t ↔
      ∃ d, ctx.directory = some d ∧ d.search numbers = .ok found ∧
        { s with searches := s.searches ++ Directory.searches numbers } = t := by
  unfold Context.lookUp
  cases ctx.directory with
  | none => simp [throw_ne_ok]
  | some d => simp [attempt_eq_ok]

/-! ## What actions keep -/

class Keeps (P : Session → Prop) (act : Action α) : Prop where
  kept : ∀ s, P s → match act.run s with
    | .ok _ t => P t
    | .error _ t => P t

section Keeps

variable {P : Session → Prop}

theorem Keeps.of_ok {act : Action α} [hact : Keeps P act] {a : α} (hs : P s)
    (h : act.run s = .ok a t) : P t := by
  have ht := hact.kept s hs
  rwa [h] at ht

theorem Keeps.of_error {act : Action α} [hact : Keeps P act] {e : Fault} (hs : P s)
    (h : act.run s = .error e t) : P t := by
  have ht := hact.kept s hs
  rwa [h] at ht

instance (a : α) : Keeps P (pure a) :=
  ⟨fun _ hs => hs⟩

instance {x : Action α} {f : α → Action β} [Keeps P x] [hf : ∀ a, Keeps P (f a)] :
    Keeps P (x >>= f) := by
  constructor
  intro s hs
  rw [EStateM.run_bind]
  cases h : x.run s with
  | ok a t => exact (hf a).kept t (Keeps.of_ok hs h)
  | error e t => exact Keeps.of_error hs h

instance {c : Prop} [Decidable c] {x y : Action α} [Keeps P x] [Keeps P y] :
    Keeps P (if c then x else y) := by
  split <;> assumption

instance (e : Fault) : Keeps P (throw e : Action α) :=
  ⟨fun _ hs => hs⟩

-- What stands behind a failure is never run, so nothing is asked of it.
instance (e : Fault) (f : β → Action α) : Keeps P (throw e >>= f) :=
  ⟨fun _ hs => hs⟩

instance (r : Rejection) : Keeps P (reject r : Action α) :=
  ⟨fun _ hs => hs⟩

instance (r : Rejection) (f : β → Action α) : Keeps P (reject r >>= f) :=
  ⟨fun _ hs => hs⟩

instance (x : Except Fault α) : Keeps P (attempt x) := by
  cases x <;> unfold attempt <;> infer_instance

instance (x : Except Rejection α) : Keeps P (check x) := by
  cases x <;> unfold check <;> infer_instance

instance : Keeps P register := by
  constructor
  intro s hs
  obtain ⟨_, _, _, b⟩ := s
  cases b <;> exact hs

instance (id : Int) : Keeps P (find? id) := by
  unfold find?
  infer_instance

instance (id : Option Int) : Keeps P (requireStored id) := by
  cases id <;> unfold requireStored <;> infer_instance

instance (actor : Option String) : Keeps P (requireActor actor) := by
  cases actor <;> unfold requireActor <;> infer_instance

instance (id : Int) : Keeps P (require id) := by
  have hfound (r : Option Record) : Keeps P (match r with
      | some r => pure r
      | none => reject (.notFound id) : Action Record) := by
    cases r <;> infer_instance
  unfold require
  infer_instance

instance (id : Option Int) (first second : String) :
    Keeps P (requireNoOtherOpen id first second) := by
  unfold requireNoOtherOpen
  infer_instance

instance {f : α → β → Action α} [hf : ∀ a b, Keeps P (f a b)] (bs : List β) (a : α) :
    Keeps P (bs.foldlM f a) := by
  induction bs generalizing a with
  | nil =>
      rw [List.foldlM_nil]
      infer_instance
  | cons b bs ih =>
      rw [List.foldlM_cons]
      infer_instance

instance {f : α → Action β} [hf : ∀ a, Keeps P (f a)] (as : List α) : Keeps P (as.mapM f) := by
  induction as with
  | nil =>
      rw [List.mapM_nil]
      infer_instance
  | cons a as ih =>
      rw [List.mapM_cons]
      infer_instance

/-- A property of sessions that storage and the directory keep, whatever is asked of them. What is made
of reading, storing and deleting keeps it as well. -/
class IsInvariant (P : Session → Prop) : Prop where
  saves : ∀ r : Record, Keeps P (save r)
  stores : ∀ d : Draft, Keeps P (saveDraft d)
  deletes : ∀ id : Option Int, Keeps P (delete id)
  asked : ∀ s searches, P s → P { s with searches := searches }

attribute [instance] IsInvariant.saves IsInvariant.stores IsInvariant.deletes

instance [hP : IsInvariant P] (ctx : Context) (numbers : List String) :
    Keeps P (ctx.lookUp numbers) := by
  have hasked (f : Session → List (List String)) :
      Keeps P (modify fun s => { s with searches := f s } : Action Unit) :=
    ⟨fun s hs => hP.asked s (f s) hs⟩
  unfold Context.lookUp
  cases ctx.directory <;> infer_instance

end Keeps

/-! ## What was committed -/

class KeepsCommitted (act : Action α) : Prop where
  kept : ∀ s, match act.run s with
    | .ok _ t => t.committed = s.committed
    | .error _ t => t.committed = s.committed

theorem KeepsCommitted.of_ok {act : Action α} [hact : KeepsCommitted act] {a : α}
    (h : act.run s = .ok a t) : t.committed = s.committed := by
  have hs := hact.kept s
  rwa [h] at hs

theorem KeepsCommitted.of_error {act : Action α} [hact : KeepsCommitted act] {f : Fault}
    (h : act.run s = .error f t) : t.committed = s.committed := by
  have hs := hact.kept s
  rwa [h] at hs

def HasCommitted (g : Register) (s : Session) : Prop := s.committed = g

instance {act : Action α} [hact : ∀ g, Keeps (HasCommitted g) act] : KeepsCommitted act := by
  constructor
  intro s
  have hs := (hact s.committed).kept s rfl
  cases h : act.run s with
  | ok a t =>
      rw [h] at hs
      exact hs
  | error e t =>
      rw [h] at hs
      exact hs

variable (g : Register)

instance (r : Rejection) : Keeps (HasCommitted g) (rejectAll r : Action α) :=
  ⟨fun _ hs => hs⟩

instance : Keeps (HasCommitted g) (modify Session.fail : Action Unit) :=
  ⟨fun _ hs => hs⟩

instance (h : Register) : Keeps (HasCommitted g) (setRegister h) :=
  ⟨fun _ hs => hs⟩

instance (r : Record) : Keeps (HasCommitted g) (put r) := by
  cases h : r.id <;> simp only [put, h] <;> infer_instance

instance (id : Option Int) (ok : Bool) (row : Except Draft.Obstacle Record) :
    Keeps (HasCommitted g) (store id ok row) := by
  have hwrite : Keeps (HasCommitted g) (write id ok row) := by
    match row with
    | .error (.unstorable fault) => unfold write; infer_instance
    | .error (.missing text) => unfold write; infer_instance
    | .ok r => unfold write; infer_instance
  unfold store
  dsimp only
  infer_instance

instance : IsInvariant (HasCommitted g) where
  saves r := by
    unfold save
    infer_instance
  stores d := by
    unfold saveDraft
    infer_instance
  deletes id := by
    unfold delete
    infer_instance
  asked _ _ hs := hs

/-- A scope leaves what the action made of the register, or the register itself when the action
fails. -/
theorem scope_snd (act : Action α) [KeepsCommitted act] (g : Register) :
    (Storage.scope act g).2 =
      match act.run (Session.start g) with
      | .ok _ t => t.working
      | .error _ _ => g := by
  simp only [Storage.scope, Session.transact]
  cases h : act.run (Session.start g) with
  | ok a t => rfl
  | error e t => exact KeepsCommitted.of_error h

/-- A scope whose action fails leaves the register as it was. -/
theorem eq_of_scope_error {act : Action α} [KeepsCommitted act] {g h : Register} {f : Fault}
    (hscope : Storage.scope act g = (.error f, h)) : h = g := by
  have hsnd := scope_snd act g
  rw [hscope] at hsnd
  simp only [Storage.scope, Session.transact] at hscope
  cases hrun : act.run (Session.start g) with
  | ok a t =>
      rw [hrun] at hscope
      cases hscope
  | error e t =>
      rw [hrun] at hsnd
      exact hsnd

end KeepApart.Action
