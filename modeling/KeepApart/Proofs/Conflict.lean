import KeepApart.Proofs.Failure
import KeepApart.Proofs.OpenPairs

/-!
# Conflicts between open records

A call that would give two prisoners a further open record is refused, and no call is refused for that
reason otherwise. Closed records never stand in the way.
-/

namespace KeepApart

open KeepApart.Action Register

variable {α β : Type} {s : Session} {ns : List String}

def Action.Refuses (act : Action α) (s : Session) (ns : List String) : Prop :=
  ∃ t, act.run s = .error (.rejected (.openExists ns)) t

namespace Action

theorem refuses_bind {x : Action α} {act : α → Action β} :
    Refuses (x >>= act) s ns ↔
      Refuses x s ns ∨ ∃ a u, x.run s = .ok a u ∧ Refuses (act a) u ns := by
  simp only [Refuses, bind_eq_error]
  constructor
  · rintro ⟨t, h | ⟨a, u, hx, h⟩⟩
    · exact .inl ⟨t, h⟩
    · exact .inr ⟨a, u, hx, t, h⟩
  · rintro (⟨t, h⟩ | ⟨a, u, hx, t, h⟩)
    · exact ⟨t, .inl h⟩
    · exact ⟨t, .inr ⟨a, u, hx, h⟩⟩

theorem refuses_guard_throw {c : Prop} [Decidable c] {e : Fault} {act : β → Action α}
    {rest : Action α} :
    Refuses (if c then throw e >>= act else rest) s ns ↔
      (c ∧ e = .rejected (.openExists ns)) ∨ (¬ c ∧ Refuses rest s ns) := by
  simp only [Refuses, guard_throw_eq_error, exists_or, exists_and_left, exists_eq', and_true]

theorem refuses_guard_reject {c : Prop} [Decidable c] {r : Rejection} {act : β → Action α}
    {rest : Action α} :
    Refuses (if c then reject r >>= act else rest) s ns ↔
      (c ∧ r = .openExists ns) ∨ (¬ c ∧ Refuses rest s ns) := by
  simp only [Refuses, guard_reject_eq_error, exists_or, exists_and_left, exists_eq', and_true,
    Fault.rejected.injEq]

theorem refuses_requireNoOtherOpen {id : Option Int} {first second : String} :
    Refuses (requireNoOtherOpen id first second) s ns ↔
      s.isBroken = false ∧ ¬ s.working.NoOtherOpen id first second ∧ ns = [first, second] := by
  simp only [Refuses, requireNoOtherOpen_eq_error, exists_and_left, exists_eq', and_true,
    reduceCtorEq, and_false, false_or, Fault.rejected.injEq, Rejection.openExists.injEq]
  rw [eq_comm (a := ns)]

/-! ## What never refuses -/

theorem not_refuses_requireActor {actor : Option String} : ¬ Refuses (requireActor actor) s ns := by
  simp [Refuses, requireActor_eq_error]

theorem not_refuses_require {id : Int} : ¬ Refuses (require id) s ns := by
  simp [Refuses, require_eq_error]

theorem not_refuses_lookUp {ctx : Context} {numbers : List String} :
    ¬ Refuses (ctx.lookUp numbers) s ns := by
  rintro ⟨t, h⟩
  rcases lookUp_eq_error.1 h with ⟨-, h, -⟩ | ⟨d, -, h, -⟩
  · cases h
  · cases Fault.isOfSearch_of_search h

theorem not_refuses_record {p : Proposal} {name : String} {now : Moment} :
    ¬ Refuses (attempt (p.record name now)) s ns := by
  rintro ⟨t, h⟩
  cases Fault.isOfCodes_of_record (attempt_eq_error.1 h).1

theorem not_refuses_draft {q : LegacyRequest} {defaults : SyncDefaults} {noComment : Json}
    {today : Date} : ¬ Refuses (attempt (q.draft defaults noComment today)) s ns := by
  rintro ⟨t, h⟩
  rcases Fault.of_draft (attempt_eq_error.1 h).1 with h | h <;> cases h

theorem not_refuses_store {id : Option Int} {ok : Bool} {row : Except Draft.Obstacle Record}
    (hrow : row ≠ .error (.unstorable (.rejected (.openExists ns)))) :
    ¬ Refuses (store id ok row) s ns := by
  rintro ⟨t, h⟩
  rcases unwritten_of_store h with ⟨-, h⟩ | h
  · simp [requireStored_eq_error] at h
  · cases h
    exact hrow rfl

theorem not_refuses_save {r : Record} : ¬ Refuses (save r) s ns :=
  not_refuses_store nofun

theorem not_refuses_saveDraft {d : Draft} : ¬ Refuses (saveDraft d) s ns := by
  rw [saveDraft, refuses_bind]
  rintro (h | ⟨_, _, -, t, h⟩)
  · exact not_refuses_store Draft.record_ne_rejected h
  · exact pure_ne_error h

theorem not_refuses_reopen {e : Record} {at' : Moment} {name reason : String} :
    ¬ Refuses (check (e.reopen at' name reason)) s ns := by
  rintro ⟨t, h⟩
  obtain ⟨r, hr, h, -⟩ := check_eq_error.1 h
  rw [Record.eq_of_reopen_error hr] at h
  cases h

theorem not_refuses_givenOrActor {given actor : Option String} {act : String → Action Record}
    (hact : ∀ name, ¬ Refuses (act name) s ns) :
    ¬ Refuses (match given? given with
      | some name => pure name >>= act
      | none => requireActor actor >>= act) s ns := by
  cases given? given with
  | none =>
      simp only [refuses_bind, not_refuses_requireActor, requireActor_eq_ok, false_or]
      rintro ⟨name, _, ⟨-, -, rfl⟩, h⟩
      exact hact name h
  | some name => exact hact name

end Action

/-! ## Each call -/

/-- The prisoners have an open record, in either order, under another id than this one. -/
def Register.HasOtherOpen (g : Register) (id : Option Int) (a b : String) : Prop :=
  ∃ e ∈ g.records, e.isOpen = true ∧ e.id ≠ id ∧ (e.pair = (a, b) ∨ e.pair = (b, a))

theorem Register.not_noOtherOpen_iff {g : Register} {id : Option Int} {a b : String} :
    ¬ g.NoOtherOpen id a b ↔ g.HasOtherOpen id a b := by
  simp only [NoOtherOpen, HasOtherOpen, Record.isBetween_iff, not_forall, exists_prop]
  constructor
  · rintro ⟨e, he, hopen, hpair, hid⟩
    exact ⟨e, he, hopen, hid, hpair⟩
  · rintro ⟨e, he, hopen, hid, hpair⟩
    exact ⟨e, he, hopen, hpair, hid⟩

theorem Register.hasOtherOpen_none_iff {g : Register} {a b : String} (hg : g.IsTable) :
    g.HasOtherOpen none a b ↔ Merge.IsProtected g a b := by
  constructor
  · rintro ⟨e, he, hopen, -, hpair⟩
    exact ⟨e, he, hopen, hpair⟩
  · rintro ⟨e, he, hopen, hpair⟩
    obtain ⟨n, hid, -⟩ := hg.exists_id he
    exact ⟨e, he, hopen, by simp [hid], hpair⟩

structure Proposal.IsAcceptable (p : Proposal) (ctx : Context) (actor : Option String) : Prop where
  actor : ∃ name, actor = some name ∧ Text.isBlankText name = false
  differ : p.firstNumber ≠ p.secondNumber
  comment : p.badComment = false ∧ Text.isBlankText p.comment = false
  known : ∃ d found, ctx.directory = some d ∧ d.search [p.firstNumber, p.secondNumber] = .ok found

/-- The result of an upsert is stored under this id and this pair: those of the record that is
overwritten, or no id yet and the pair of the request. -/
def LegacyRequest.Targets (q : LegacyRequest) (g : Register) (id : Option Int) (a b : String) : Prop :=
  match q.id with
  | none => id = none ∧ a = q.firstNumber ∧ b = q.secondNumber
  | some n => id = some n ∧ ∃ e ∈ g.records, e.id = some n ∧ e.pair = (a, b)

theorem Command.create_refuses_iff {ctx : Context} {p : Proposal} {actor : Option String}
    (hs : s.isBroken = false) :
    Refuses (create ctx p actor) s ns ↔
      p.IsAcceptable ctx actor ∧ s.working.HasOtherOpen none p.firstNumber p.secondNumber ∧
        ns = [p.firstNumber, p.secondNumber] := by
  unfold create
  dsimp only
  simp only [refuses_bind, refuses_guard_reject, refuses_guard_throw, refuses_requireNoOtherOpen,
    not_refuses_requireActor, not_refuses_lookUp, not_refuses_record, not_refuses_save,
    requireActor_eq_ok, lookUp_eq_ok, not_noOtherOpen_iff, reduceCtorEq, and_false, exists_false,
    false_or, or_false]
  constructor
  · rintro ⟨name, _, ⟨hactor, hname, rfl⟩, hdiffer, hbad, hblank, found, _, ⟨d, hd, hfound, rfl⟩,
      -, hother, hns⟩
    simp only [beq_iff_eq, Bool.not_eq_true] at hdiffer hbad hblank
    exact ⟨⟨⟨name, hactor, hname⟩, hdiffer, ⟨hbad, hblank⟩, d, found, hd, hfound⟩, hother, hns⟩
  · rintro ⟨⟨⟨name, hactor, hname⟩, hdiffer, ⟨hbad, hblank⟩, d, found, hd, hfound⟩, hother, hns⟩
    simp only [beq_iff_eq, Bool.not_eq_true]
    exact ⟨name, s, ⟨hactor, hname, rfl⟩, hdiffer, hbad, hblank, found, _, ⟨d, hd, hfound, rfl⟩,
      hs, hother, hns⟩

theorem Command.reopen_refuses_iff {ctx : Context} {id : Int} {reason actor reopener : Option String}
    {at? : Option Moment} (hs : s.isBroken = false) (hg : s.working.IsTable) :
    Refuses (reopen ctx id reason actor reopener at?) s ns ↔
      ∃ e ∈ s.working.records, e.id = some id ∧ e.isClosed = true ∧
        s.working.HasOtherOpen e.id e.firstNumber e.secondNumber ∧
          ns = [e.firstNumber, e.secondNumber] := by
  -- Behind the check for open records nothing refuses, whoever is named as the one who reopens.
  have hrest (e : Record) (u : Session) : ¬ Refuses (match given? reopener with
      | some name => pure name >>= fun name => do
        save (← check (e.reopen (at?.getD ctx.now) name (reason.getD "")))
      | none => requireActor actor >>= fun name => do
        save (← check (e.reopen (at?.getD ctx.now) name (reason.getD "")))) u ns := by
    apply not_refuses_givenOrActor
    intro name
    rw [refuses_bind]
    rintro (h | ⟨_, _, -, h⟩)
    · exact not_refuses_reopen h
    · exact not_refuses_save h
  unfold reopen
  dsimp only
  simp only [refuses_bind, refuses_guard_reject, refuses_requireNoOtherOpen, not_refuses_require,
    require_eq_ok, not_noOtherOpen_iff, reduceCtorEq, and_false, false_or]
  constructor
  · rintro ⟨e, _, ⟨-, -, he, rfl⟩, hopen, ⟨-, hother, hns⟩ | ⟨_, u, -, h⟩⟩
    · obtain ⟨he, hid⟩ := hg.find?_eq_some_iff.1 he
      exact ⟨e, he, hid, by simpa [Record.isOpen] using hopen, hother, hns⟩
    · exact absurd h (hrest e u)
  · rintro ⟨e, he, hid, hclosed, hother, hns⟩
    obtain ⟨n, hn, hstorable⟩ := hg.exists_id he
    obtain rfl := Option.some.inj (hn.symm.trans hid)
    exact ⟨e, s, ⟨hs, hstorable, hg.find?_eq_some_iff.2 ⟨he, hid⟩, rfl⟩,
      by simp [Record.isOpen, hclosed], .inl ⟨hs, hother, hns⟩⟩

theorem Sync.store_refuses_iff {first second : String} {d : Draft} :
    Refuses (store first second d) s ns ↔
      s.isBroken = false ∧ d.isClosed = false ∧ s.working.HasOtherOpen d.id first second ∧
        ns = [first, second] := by
  unfold store
  dsimp only
  cases d.isClosed with
  | true => simp [not_refuses_saveDraft]
  | false =>
      simp [refuses_bind, refuses_requireNoOtherOpen, not_refuses_saveDraft, not_noOtherOpen_iff,
        -EStateM.run_bind]

theorem Sync.upsert_refuses_iff {today : Date} {now : Moment} {defaults : SyncDefaults}
    {q : LegacyRequest} (hs : s.isBroken = false) (hg : s.working.IsTable) :
    Refuses (upsertOn today now defaults q) s ns ↔
      (∃ d, q.draft defaults defaults.noComment today = .ok d) ∧ q.InForce today ∧
        ∃ id a b, q.Targets s.working id a b ∧ s.working.HasOtherOpen id a b ∧ ns = [a, b] := by
  cases hid : q.id with
  | none =>
      simp only [upsertOn, LegacyRequest.Targets, hid, refuses_bind, not_refuses_draft,
        store_refuses_iff, attempt_eq_ok, false_or]
      constructor
      · rintro ⟨d, _, ⟨hd, rfl⟩, -, hopen, hother, hns⟩
        -- A draft has no id, and neither has the target of a request without one.
        rw [(LegacyRequest.draft_of_accepted hd).2.1] at hother
        exact ⟨⟨d, hd⟩, (LegacyRequest.isClosed_eq_false_iff hd).1 hopen, _, _, _, ⟨rfl, rfl, rfl⟩,
          hother, hns⟩
      · rintro ⟨⟨d, hd⟩, hforce, _, _, _, ⟨rfl, rfl, rfl⟩, hother, hns⟩
        rw [← (LegacyRequest.draft_of_accepted hd).2.1] at hother
        exact ⟨d, s, ⟨hd, rfl⟩, hs, (LegacyRequest.isClosed_eq_false_iff hd).2 hforce, hother, hns⟩
  | some id =>
      simp only [upsertOn, LegacyRequest.Targets, hid, refuses_bind, not_refuses_require,
        not_refuses_draft, store_refuses_iff, require_eq_ok, attempt_eq_ok, false_or]
      constructor
      · rintro ⟨e, _, ⟨-, -, he, rfl⟩, d, _, ⟨hd, rfl⟩, -, hopen, hother, hns⟩
        obtain ⟨he, heid⟩ := hg.find?_eq_some_iff.1 he
        have hother' : s.working.HasOtherOpen e.id e.firstNumber e.secondNumber := hother
        rw [heid] at hother'
        exact ⟨⟨d, hd⟩, (LegacyRequest.isClosed_eq_false_iff hd).1 hopen, _, _, _,
          ⟨rfl, e, he, heid, rfl⟩, hother', hns⟩
      · rintro ⟨⟨d, hd⟩, hforce, _, _, _, ⟨rfl, e, he, heid, hpair⟩, hother, hns⟩
        obtain ⟨rfl, rfl⟩ := Prod.mk.inj hpair
        obtain ⟨n, hn, hstorable⟩ := hg.exists_id he
        obtain rfl := Option.some.inj (hn.symm.trans heid)
        rw [← heid] at hother
        exact ⟨e, s, ⟨hs, hstorable, hg.find?_eq_some_iff.2 ⟨he, heid⟩, rfl⟩, d, s, ⟨hd, rfl⟩, hs,
          (LegacyRequest.isClosed_eq_false_iff hd).2 hforce, hother, hns⟩

theorem Sync.migrate_refuses_iff {now : Moment} {defaults : SyncDefaults} {q : LegacyRequest}
    (hs : s.isBroken = false) :
    Refuses (migrate now defaults q) s ns ↔
      (∃ d, q.draft defaults defaults.migratedNoComment now.date = .ok d) ∧ q.InForce now.date ∧
        s.working.HasOtherOpen none q.firstNumber q.secondNumber ∧
          ns = [q.firstNumber, q.secondNumber] := by
  simp only [migrate, refuses_bind, not_refuses_draft, store_refuses_iff, attempt_eq_ok, false_or]
  constructor
  · rintro ⟨d, _, ⟨hd, rfl⟩, -, hopen, hother, hns⟩
    rw [(LegacyRequest.draft_of_accepted hd).2.1] at hother
    exact ⟨⟨d, hd⟩, (LegacyRequest.isClosed_eq_false_iff hd).1 hopen, hother, hns⟩
  · rintro ⟨⟨d, hd⟩, hforce, hother, hns⟩
    rw [← (LegacyRequest.draft_of_accepted hd).2.1] at hother
    exact ⟨d, s, ⟨hd, rfl⟩, hs, (LegacyRequest.isClosed_eq_false_iff hd).2 hforce, hother, hns⟩

/-! ## All of them -/

/-- A session that works on the register which a history leaves behind, whatever was committed and
asked before. -/
def Session.amid (steps : List Step) (committed : Register) (asked : List (List String)) : Session :=
  { committed, working := reached steps, searches := asked }

/-- A call is refused for an open record of its two prisoners exactly when it would give them a further
one: an acceptable creation, the reopening of a closed record, and an accepted legacy request that is
in force today, which counts under the pair that is stored. -/
theorem refuses_iff_would_be_further_open (steps : List Step) (committed : Register)
    (asked : List (List String)) (ns : List String) :
    (∀ ctx p actor, Refuses (Command.create ctx p actor) (Session.amid steps committed asked) ns ↔
      p.IsAcceptable ctx actor ∧
        Merge.IsProtected (reached steps) p.firstNumber p.secondNumber ∧
          ns = [p.firstNumber, p.secondNumber]) ∧
    (∀ ctx id reason actor reopener at?,
      Refuses (Command.reopen ctx id reason actor reopener at?)
          (Session.amid steps committed asked) ns ↔
        ∃ e ∈ (reached steps).records, e.id = some id ∧ e.isClosed = true ∧
          (reached steps).HasOtherOpen e.id e.firstNumber e.secondNumber ∧
            ns = [e.firstNumber, e.secondNumber]) ∧
    (∀ today now defaults q,
      Refuses (Sync.upsertOn today now defaults q) (Session.amid steps committed asked) ns ↔
        (∃ d, q.draft defaults defaults.noComment today = .ok d) ∧ q.InForce today ∧
          ∃ id a b, q.Targets (reached steps) id a b ∧ (reached steps).HasOtherOpen id a b ∧
            ns = [a, b]) ∧
    (∀ now defaults q,
      Refuses (Sync.migrate now defaults q) (Session.amid steps committed asked) ns ↔
        (∃ d, q.draft defaults defaults.migratedNoComment now.date = .ok d) ∧ q.InForce now.date ∧
          Merge.IsProtected (reached steps) q.firstNumber q.secondNumber ∧
            ns = [q.firstNumber, q.secondNumber]) := by
  have hs : (Session.amid steps committed asked).isBroken = false := rfl
  have hg : (reached steps).IsTable := (reached_apart steps).1.table
  refine ⟨?_, ?_, ?_, ?_⟩
  · intro ctx p actor
    rw [← hasOtherOpen_none_iff hg]
    exact Command.create_refuses_iff hs
  · intro ctx id reason actor reopener at?
    exact Command.reopen_refuses_iff hs hg
  · intro today now defaults q
    exact Sync.upsert_refuses_iff hs hg
  · intro now defaults q
    rw [← hasOtherOpen_none_iff hg]
    exact Sync.migrate_refuses_iff hs

end KeepApart
