import KeepApart.Command
import KeepApart.Legacy.Sync
import KeepApart.Proofs.Action

/-!
# Failures of actions

For every basic action there is one equivalence that says when it fails, with what and in which
session. An action that only reads fails in the session that it started in. A row that is refused takes
everything back to the last commit, and a value that storage cannot hold breaks the session as well.
-/

namespace KeepApart

namespace Action

variable {α β : Type} {s t : Session} {f : Fault}

theorem pure_ne_error {a : α} : (pure a : Action α).run s ≠ .error f t := by
  intro h
  cases h

theorem bind_eq_error {x : Action α} {act : α → Action β} :
    (x >>= act).run s = .error f t ↔
      x.run s = .error f t ∨ ∃ a u, x.run s = .ok a u ∧ (act a).run u = .error f t := by
  rw [EStateM.run_bind]
  cases x.run s <;> simp

/-- What is only made into another result fails as it is. -/
theorem bind_pure_eq_error {x : Action α} {g : α → β} :
    (x >>= fun a => pure (g a)).run s = .error f t ↔ x.run s = .error f t := by
  simp only [bind_eq_error, pure_ne_error, and_false, exists_false, or_false]

theorem throw_eq_error {e : Fault} : (throw e : Action α).run s = .error f t ↔ e = f ∧ s = t := by
  change EStateM.Result.error e s = _ ↔ _
  rw [EStateM.Result.error.injEq]

theorem reject_eq_error {r : Rejection} :
    (reject r : Action α).run s = .error f t ↔ .rejected r = f ∧ s = t :=
  throw_eq_error

theorem guard_throw_eq_error {c : Prop} [Decidable c] {e : Fault} {act : β → Action α}
    {rest : Action α} :
    (if c then throw e >>= act else rest).run s = .error f t ↔
      (c ∧ e = f ∧ s = t) ∨ (¬ c ∧ rest.run s = .error f t) := by
  by_cases hc : c
  · rw [if_pos hc, bind_eq_error, throw_eq_error]
    simp [hc, throw_ne_ok]
  · rw [if_neg hc]
    simp [hc]

theorem guard_reject_eq_error {c : Prop} [Decidable c] {r : Rejection} {act : β → Action α}
    {rest : Action α} :
    (if c then reject r >>= act else rest).run s = .error f t ↔
      (c ∧ .rejected r = f ∧ s = t) ∨ (¬ c ∧ rest.run s = .error f t) :=
  guard_throw_eq_error

theorem check_eq_error {x : Except Rejection α} :
    (check x).run s = .error f t ↔ ∃ r, x = .error r ∧ .rejected r = f ∧ s = t := by
  cases x with
  | ok a => simp [check]
  | error r => simp [check, reject_eq_error]

theorem attempt_eq_error {x : Except Fault α} :
    (attempt x).run s = .error f t ↔ x = .error f ∧ s = t := by
  cases x with
  | ok a => simp [attempt]
  | error e => simp [attempt, throw_eq_error]

theorem register_eq_error :
    register.run s = .error f t ↔ s.isBroken = true ∧ .pendingRollback = f ∧ s = t := by
  obtain ⟨_, _, _, b⟩ := s
  cases b with
  | false =>
      rw [run_register rfl]
      simp
  | true =>
      change EStateM.Result.error Fault.pendingRollback _ = _ ↔ _
      simp

theorem setRegister_ne_error {g : Register} : (setRegister g).run s ≠ .error f t := by
  rw [setRegister, EStateM.run_modify]
  intro h
  cases h

theorem find?_eq_error {id : Int} :
    (find? id).run s = .error f t ↔
      ((s.isBroken = true ∧ .pendingRollback = f) ∨
        (s.isBroken = false ∧ Column.isStorable id = false ∧ .overflow = f)) ∧ s = t := by
  simp only [find?, bind_eq_error, register_eq_error, register_eq_ok]
  by_cases h : Column.isStorable id = true
  · simp [h, and_assoc]
  · cases hb : s.isBroken <;> simp [h, throw_eq_error]

/-! ## Writing -/

theorem rejectAll_eq_error {r : Rejection} :
    (rejectAll r : Action α).run s = .error f t ↔ .rejected r = f ∧ s.rollback = t := by
  change EStateM.Result.error (Fault.rejected r) s.rollback = _ ↔ _
  rw [EStateM.Result.error.injEq]

theorem requireStored_eq_error {id : Option Int} :
    (requireStored id).run s = .error f t ↔
      ((s.isBroken = true ∧ .pendingRollback = f) ∨
        (s.isBroken = false ∧ ((id = none ∧ .notStored none = f) ∨
          ∃ n, id = some n ∧ ((Column.isStorable n = false ∧ .overflow = f) ∨
            (Column.isStorable n = true ∧ (∀ e ∈ s.working.records, e.id ≠ some n) ∧
              .notStored (some n) = f))))) ∧ s = t := by
  cases id with
  | none =>
      simp only [requireStored, bind_eq_error, register_eq_error, register_eq_ok, throw_eq_error]
      cases hb : s.isBroken <;> simp
  | some n =>
      have hstored : (s.working.find? n).isNone = true ↔ ∀ e ∈ s.working.records, e.id ≠ some n := by
        simp [Register.find?]
      have hguard (r : Option Record) (u : Session) :
          (if r.isNone then throw (.notStored (some n)) else pure n : Action Int).run u =
              .error f t ↔ r.isNone = true ∧ .notStored (some n) = f ∧ u = t := by
        cases r <;> simp [throw_eq_error]
      simp only [requireStored, bind_eq_error, find?_eq_error, find?_eq_ok, hguard]
      constructor
      · rintro (⟨⟨hb, hf⟩ | ⟨hb, hn, hf⟩, rfl⟩ | ⟨_, _, ⟨hb, hn, rfl, rfl⟩, hnone, hf, rfl⟩)
        · exact ⟨.inl ⟨hb, hf⟩, rfl⟩
        · exact ⟨.inr ⟨hb, .inr ⟨n, rfl, .inl ⟨hn, hf⟩⟩⟩, rfl⟩
        · exact ⟨.inr ⟨hb, .inr ⟨n, rfl, .inr ⟨hn, hstored.1 hnone, hf⟩⟩⟩, rfl⟩
      · rintro ⟨⟨hb, hf⟩ | ⟨hb, ⟨⟨⟩, -⟩ | ⟨m, hm, ⟨hn, hf⟩ | ⟨hn, hnone, hf⟩⟩⟩, rfl⟩
        · exact .inl ⟨.inl ⟨hb, hf⟩, rfl⟩
        · obtain rfl := Option.some.inj hm
          exact .inl ⟨.inr ⟨hb, hn, hf⟩, rfl⟩
        · obtain rfl := Option.some.inj hm
          exact .inr ⟨_, s, ⟨hb, hn, rfl, rfl⟩, hstored.2 hnone, hf, rfl⟩

/-- A new record fails for want of an id. -/
theorem put_eq_error {r : Record} :
    (put r).run s = .error f t ↔
      ((s.isBroken = true ∧ .pendingRollback = f) ∨
        (s.isBroken = false ∧ r.id = none ∧ Column.isStorable (s.working.lastId + 1) = false ∧
          .overflow = f)) ∧ s = t := by
  simp only [put, bind_eq_error, register_eq_error, register_eq_ok]
  cases hid : r.id with
  | none =>
      simp only [guard_throw_eq_error, bind_eq_error, setRegister_ne_error, pure_ne_error]
      cases hb : s.isBroken <;> simp [and_assoc]
  | some n =>
      simp only [bind_eq_error, setRegister_ne_error, pure_ne_error]
      simp [and_assoc]

/-- Why a row is not written, and what becomes of the session. -/
inductive Unwritten (s : Session) (id : Option Int) :
    Bool → Except Draft.Obstacle Record → Fault → Session → Prop where
  | inconsistentRow {row : Except Draft.Obstacle Record} :
      Unwritten s id false row (.rejected (.badClosure .inconsistentRow id)) s.rollback
  | pending {row : Except Draft.Obstacle Record} (broken : s.isBroken = true) :
      Unwritten s id true row .pendingRollback s
  | unstorable (fault : Fault) : Unwritten s id true (.error (.unstorable fault)) fault s.fail
  | missing (text : RequiredText) :
      Unwritten s id true (.error (.missing text))
        (.rejected (.badClosure (.missingText text) id)) s.rollback
  | inconsistentColumns {r : Record} (closure : r.closureConsistent = false) :
      Unwritten s id true (.ok r) (.rejected (.badClosure .inconsistentColumns id)) s.rollback
  | full {r : Record} (closure : r.closureConsistent = true) (new : r.id = none)
      (last : Column.isStorable (s.working.lastId + 1) = false) :
      Unwritten s id true (.ok r) .overflow s

theorem unwritten_of_write {id : Option Int} {ok : Bool} {row : Except Draft.Obstacle Record}
    (h : (write id ok row).run s = .error f t) : Unwritten s id ok row f t := by
  cases ok with
  | false =>
      simp only [write, Bool.not_false, if_true, rejectAll_eq_error] at h
      obtain ⟨rfl, rfl⟩ := h
      exact .inconsistentRow
  | true =>
      simp only [write, Bool.not_true, Bool.false_eq_true, if_false, bind_eq_error,
        register_eq_error, register_eq_ok] at h
      rcases h with ⟨hb, rfl, rfl⟩ | ⟨_, _, ⟨hb, -, rfl⟩, h⟩
      · exact .pending hb
      · cases row with
        | error obstacle =>
            cases obstacle with
            | unstorable fault =>
                obtain ⟨rfl, rfl⟩ := throw_eq_error.1 h
                exact .unstorable _
            | missing text =>
                obtain ⟨rfl, rfl⟩ := rejectAll_eq_error.1 h
                exact .missing text
        | ok r =>
            dsimp only at h
            by_cases hr : r.closureConsistent = true
            · rw [if_pos hr, put_eq_error, hb] at h
              obtain ⟨⟨⟨⟩, -⟩ | ⟨-, hnew, hlast, rfl⟩, rfl⟩ := h
              exact .full hr hnew hlast
            · rw [if_neg hr, rejectAll_eq_error] at h
              obtain ⟨rfl, rfl⟩ := h
              exact .inconsistentColumns (by simpa using hr)

/-- What is stored under an id fails as the look-up of the id does, or as the write. -/
theorem unwritten_of_store {id : Option Int} {ok : Bool} {row : Except Draft.Obstacle Record}
    (h : (store id ok row).run s = .error f t) :
    (id ≠ none ∧ (requireStored id).run s = .error f t) ∨ Unwritten s id ok row f t := by
  cases id with
  | none => exact .inr (unwritten_of_write h)
  | some n =>
      simp only [store, Option.isSome_some, if_true, bind_eq_error, requireStored_eq_ok] at h
      rcases h with h | ⟨_, _, ⟨-, -, -, -, rfl⟩, h⟩
      · exact .inl ⟨Option.some_ne_none n, h⟩
      -- The look-up succeeded and left the session alone, so the write fails in `s` itself.
      · exact .inr (unwritten_of_write h)

theorem saveDraft_eq_error {d : Draft} : (saveDraft d).run s = .error f t ↔
    (store d.id d.closureConsistent d.record).run s = .error f t :=
  bind_pure_eq_error

/-! ## Checks -/

theorem requireNoOtherOpen_eq_error {id : Option Int} {first second : String} :
    (requireNoOtherOpen id first second).run s = .error f t ↔
      ((s.isBroken = true ∧ .pendingRollback = f) ∨
        (s.isBroken = false ∧ ¬ s.working.NoOtherOpen id first second ∧
          .rejected (.openExists [first, second]) = f)) ∧ s = t := by
  rw [← Register.openBetween_filter_eq_nil_iff]
  simp only [requireNoOtherOpen, bind_eq_error, register_eq_error, register_eq_ok]
  by_cases h : ((s.working.openBetween first second).filter fun e => e.id != id) = []
  · simp [h, and_assoc]
  · cases hb : s.isBroken <;> simp [h, reject_eq_error]

theorem requireActor_eq_error {actor : Option String} :
    (requireActor actor).run s = .error f t ↔
      (∀ name, actor = some name → Text.isBlankText name = true) ∧ .rejected .noActor = f ∧
        s = t := by
  cases actor with
  | none => simp [requireActor, reject_eq_error]
  | some name =>
      by_cases h : Text.isBlankText name = true
      · simp [requireActor, h, reject_eq_error]
      · simp [requireActor, h]

theorem require_eq_error {id : Int} :
    (require id).run s = .error f t ↔
      ((s.isBroken = true ∧ .pendingRollback = f) ∨
        (s.isBroken = false ∧ ((Column.isStorable id = false ∧ .overflow = f) ∨
          (Column.isStorable id = true ∧ s.working.find? id = none ∧
            .rejected (.notFound id) = f)))) ∧ s = t := by
  simp only [require, bind_eq_error, find?_eq_error, find?_eq_ok]
  constructor
  · rintro (⟨⟨hb, hf⟩ | ⟨hb, hid, hf⟩, rfl⟩ | ⟨_, _, ⟨hb, hid, rfl, rfl⟩, h⟩)
    · exact ⟨.inl ⟨hb, hf⟩, rfl⟩
    · exact ⟨.inr ⟨hb, .inl ⟨hid, hf⟩⟩, rfl⟩
    · cases hfound : s.working.find? id with
      | none =>
          rw [hfound] at h
          obtain ⟨hf, rfl⟩ := reject_eq_error.1 h
          exact ⟨.inr ⟨hb, .inr ⟨hid, rfl, hf⟩⟩, rfl⟩
      | some e =>
          rw [hfound] at h
          exact absurd h pure_ne_error
  · rintro ⟨⟨hb, hf⟩ | ⟨hb, ⟨hid, hf⟩ | ⟨hid, hnone, hf⟩⟩, rfl⟩
    · exact .inl ⟨.inl ⟨hb, hf⟩, rfl⟩
    · exact .inl ⟨.inr ⟨hb, hid, hf⟩, rfl⟩
    · refine .inr ⟨_, s, ⟨hb, hid, rfl, rfl⟩, ?_⟩
      rw [hnone]
      exact reject_eq_error.2 ⟨hf, rfl⟩

theorem lookUp_eq_error {ctx : Context} {numbers : List String} :
    (ctx.lookUp numbers).run s = .error f t ↔
      (ctx.directory = none ∧ .failure "Prisoner search not configured" = f ∧ s = t) ∨
        ∃ d, ctx.directory = some d ∧ d.search numbers = .error f ∧
          { s with searches := s.searches ++ Directory.searches numbers } = t := by
  unfold Context.lookUp
  cases ctx.directory with
  | none => simp [throw_eq_error]
  | some d => simp [attempt_eq_error]

end Action

/-! ## What rules fail with -/

theorem except_bind_eq_error {ε α β : Type} {x : Except ε α} {act : α → Except ε β} {e : ε} :
    (x >>= act) = .error e ↔ x = .error e ∨ ∃ a, x = .ok a ∧ act a = .error e := by
  cases x with
  | ok a => simp [bind, Except.bind]
  | error e => simp [bind, Except.bind]

theorem except_guard_eq_error {ε α β : Type} {c : Prop} [Decidable c] {e e' : ε}
    {act : β → Except ε α} {x : Except ε α} :
    (if c then throw e >>= act else x) = .error e' ↔ (c ∧ e = e') ∨ (¬ c ∧ x = .error e') := by
  by_cases hc : c
  · simp [hc, throw, throwThe, MonadExceptOf.throw, bind, Except.bind]
  · simp [hc]

theorem Record.eq_of_close_error {e : Record} {closer reason : Option String}
    {at? : Option Moment} {r : Rejection} (h : e.close closer reason at? = .error r) :
    r = .badClosure .closingIncomplete e.id := by
  unfold Record.close at h
  split at h <;> cases h
  rfl

theorem Record.eq_of_reopen_error {e : Record} {at' : Moment} {reopener reason : String}
    {r : Rejection} (h : e.reopen at' reopener reason = .error r) :
    r = .invalid .reopeningIncomplete := by
  unfold Record.reopen at h
  split at h <;> cases h
  rfl

namespace Fault

variable {f : Fault}

theorem of_amend {e : Record} {name : String} {at' : Moment} {a : Amendment}
    (h : e.amend name at' a = .error f) :
    f = wrongType ∨ f = wrongShape ∨ ∃ cause, f = rejected (.invalid cause) := by
  unfold Record.amend at h
  split at h
  · exact .inl (Except.error.inj h).symm
  · split at h
    · exact .inr (.inr ⟨_, (Except.error.inj h).symm⟩)
    · split at h
      · exact .inr (.inl (Except.error.inj h).symm)
      · split at h
        · exact .inr (.inr ⟨_, (Except.error.inj h).symm⟩)
        · cases h

def isOfCodes : Fault → Bool
  | badCode .. => true
  | _ => false

def isOfSearch : Fault → Bool
  | rejected (.unknownPrisoners _) => true
  | searchFailed _ | failure _ | wrongType | missingKey | unreadable | nested | longInteger _ => true
  | _ => false

theorem isOfCodes_of_read {α : Type} [Vocabulary α] {value : Json}
    (h : Vocabulary.read α value = .error f) : f.isOfCodes = true := by
  unfold Vocabulary.read at h
  split at h
  · cases h
  · cases h
    rfl

theorem isOfCodes_of_record {p : Proposal} {actor : String} {now : Moment}
    (h : p.record actor now = .error f) : f.isOfCodes = true := by
  simp only [Proposal.record, except_bind_eq_error] at h
  rcases h with h | ⟨_, -, h | ⟨_, -, h | ⟨_, -, h | ⟨_, -, h⟩⟩⟩⟩
  · exact isOfCodes_of_read h
  · exact isOfCodes_of_read h
  · exact isOfCodes_of_read h
  · exact isOfCodes_of_read h
  · cases h

theorem of_draft {q : LegacyRequest} {defaults : SyncDefaults} {noComment : Json} {today : Date}
    (h : q.draft defaults noComment today = .error f) :
    .rejected (.invalid .samePrisoner) = f ∨ f.isOfCodes = true := by
  unfold LegacyRequest.draft at h
  dsimp only at h
  simp only [except_guard_eq_error, except_bind_eq_error] at h
  rcases h with ⟨-, h⟩ | ⟨-, h | ⟨_, -, h | ⟨_, -, h | ⟨_, -, h⟩⟩⟩⟩
  · exact .inl h
  · exact .inr (isOfCodes_of_read h)
  · exact .inr (isOfCodes_of_read h)
  · exact .inr (isOfCodes_of_read h)
  · cases h

theorem isOfSearch_of_addEntry {found : Found} {entry : Json}
    (h : found.addEntry entry = .error f) : f.isOfSearch = true := by
  simp only [Found.addEntry, except_bind_eq_error] at h
  rcases h with h | ⟨p, -, h⟩
  · unfold Prisoner.ofJson at h
    split at h
    · split at h <;> cases h
      rfl
    · cases h
      rfl
  · split at h <;> cases h <;> rfl

theorem isOfSearch_of_ofContent {content : Json} (h : Found.ofContent content = .error f) :
    f.isOfSearch = true := by
  have hentries (entries : List Json) (found : Found)
      (h : entries.foldlM Found.addEntry found = .error f) : f.isOfSearch = true := by
    induction entries generalizing found with
    | nil => cases h
    | cons entry entries ih =>
        rw [List.foldlM_cons, except_bind_eq_error] at h
        rcases h with h | ⟨found', -, h⟩
        · exact isOfSearch_of_addEntry h
        · exact ih found' h
  unfold Found.ofContent at h
  split at h
  · cases h
  · split at h
    · exact hentries _ _ h
    · cases h
      rfl

theorem isOfSearch_of_found {url : String} {reply : Reply} (h : reply.found url = .error f) :
    f.isOfSearch = true := by
  cases reply with
  | answer status reason content =>
      simp only [Reply.found] at h
      split at h
      · cases h
        rfl
      · cases content with
        | error fault =>
            cases h
            cases fault <;> rfl
        | ok content => exact isOfSearch_of_ofContent h
  | unreachable reason =>
      cases h
      rfl
  | crash message =>
      cases h
      rfl

theorem isOfSearch_of_search {d : Directory} {numbers : List String}
    (h : d.search numbers = .error f) : f.isOfSearch = true := by
  unfold Directory.search at h
  dsimp only at h
  split at h
  · cases h
  · rw [except_bind_eq_error] at h
    rcases h with h | ⟨found, -, h⟩
    · exact isOfSearch_of_found h
    · split at h
      · cases h
      · cases h
        rfl

end Fault

theorem Column.fault_of_text {value : Json} {f : Fault} (h : Column.text value = .error f) :
    f = .overflow ∨ f = .notUnicode ∨ f = .unstorable := by
  cases value with
  | int n =>
      simp only [Column.text] at h
      split at h <;> cases h
      exact .inl rfl
  | surrogates codes =>
      cases h
      exact .inr (.inl rfl)
  | arr items =>
      cases h
      exact .inr (.inr rfl)
  | obj fields =>
      cases h
      exact .inr (.inr rfl)
  | null | bool b | float x | str text => cases h

theorem Draft.exists_of_unstorable {d : Draft} {f : Fault}
    (h : d.record = .error (.unstorable f)) : ∃ v ∈ d.values, Column.text v = .error f := by
  have hcolumn (value : Json) (h : Draft.column value = .error (.unstorable f)) :
      Column.text value = .error f := by
    unfold Draft.column at h
    cases htext : Column.text value with
    | ok s =>
        rw [htext] at h
        cases h
    | error e =>
        rw [htext] at h
        cases h
        rfl
  have hneed (text : RequiredText) (s : Option String) :
      Draft.need text s ≠ .error (.unstorable f) := by
    cases s <;> simp [Draft.need]
  simp only [Draft.record, except_bind_eq_error, hneed, pure, Except.pure, reduceCtorEq, and_false,
    exists_false, or_false] at h
  simp only [Draft.values, List.mem_cons, List.not_mem_nil, or_false, exists_eq_or_imp]
  rcases h with h | ⟨_, -, h | ⟨_, -, h | ⟨_, -, h | ⟨_, -, h | ⟨_, -, h | ⟨_, -, h⟩⟩⟩⟩⟩⟩
  all_goals have hvalue := hcolumn _ h
  all_goals simp [hvalue]

theorem Draft.record_ne_rejected {d : Draft} {r : Rejection} :
    d.record ≠ .error (.unstorable (.rejected r)) := by
  intro h
  obtain ⟨v, -, hv⟩ := exists_of_unstorable h
  rcases Column.fault_of_text hv with h | h | h <;> cases h

end KeepApart
