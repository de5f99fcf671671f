import KeepApart.Command
import KeepApart.Proofs.Action

/-!
# What commands store

A command that succeeds stores one record. A creation stores an open one of two different prisoners
without an open record; the others store one in the place of a stored record, with its id and pair.
-/

namespace KeepApart

open KeepApart.Action Register

variable {s t : Session} {ctx : Context} {id : Int} {actor : Option String} {e r v : Record}

/-! ## Rules -/

namespace Proposal

variable {p : Proposal} {name : String} {now : Moment}

theorem eq_of_record (h : p.record name now = .ok r) : ∃ firstRole secondRole reason restriction,
    r = {
      id := none, firstNumber := p.firstNumber, firstRole, secondNumber := p.secondNumber, secondRole,
      reason, restriction, comment := p.comment, authorisedBy := some name, whenCreated := now,
      whenUpdated := now, updatedBy := name, isClosed := false, closedBy := none,
      closedReason := none, closedAt := none } := by
  simp only [record, except_bind_eq_ok] at h
  obtain ⟨firstRole, -, secondRole, -, reason, -, restriction, -, h⟩ := h
  exact ⟨firstRole, secondRole, reason, restriction, (Except.ok.inj h).symm⟩

theorem pair_of_record (h : p.record name now = .ok r) :
    r.id = none ∧ r.pair = (p.firstNumber, p.secondNumber) ∧ r.isClosed = false := by
  obtain ⟨_, _, _, _, rfl⟩ := eq_of_record h
  exact ⟨rfl, rfl, rfl⟩

end Proposal

namespace Record

def Succeeds (r e : Record) : Prop := r.id = e.id ∧ r.pair = e.pair

theorem eq_of_amend {name : String} {at' : Moment} {a : Amendment}
    (h : e.amend name at' a = .ok r) :
    r = { e.amended a with updatedBy := name, whenUpdated := at' } := by
  unfold amend at h
  split at h
  · cases h
  · split at h
    · cases h
    · split at h
      · cases h
      · split at h
        · cases h
        · exact (Except.ok.inj h).symm

theorem eq_of_close {closer reason : Option String} {at? : Option Moment}
    (h : e.close closer reason at? = .ok r) : ∃ name why at',
      (given? closer = some name ∧ given? reason = some why ∧ at? = some at') ∧ r = { e with
        isClosed := true, closedBy := some name, closedReason := some why, closedAt := some at',
        updatedBy := name, whenUpdated := at' } := by
  unfold close at h
  split at h
  · rename_i hname hwhy
    exact ⟨_, _, _, ⟨hname, hwhy, rfl⟩, (Except.ok.inj h).symm⟩
  · cases h

theorem eq_of_reopen {at' : Moment} {reopener reason : String}
    (h : e.reopen at' reopener reason = .ok r) : r = { e with
      isClosed := false, closedBy := none, closedReason := none, closedAt := none,
      updatedBy := reopener, whenUpdated := at', comment := reason } := by
  unfold reopen at h
  split at h
  · cases h
  · exact (Except.ok.inj h).symm

theorem succeeds_of_amend {name : String} {at' : Moment} {a : Amendment}
    (h : e.amend name at' a = .ok r) : r.Succeeds e ∧ r.isClosed = e.isClosed := by
  obtain rfl := eq_of_amend h
  exact ⟨⟨rfl, rfl⟩, rfl⟩

theorem succeeds_of_close {closer reason : Option String} {at? : Option Moment}
    (h : e.close closer reason at? = .ok r) : r.Succeeds e ∧ r.isClosed = true := by
  obtain ⟨_, _, _, -, rfl⟩ := eq_of_close h
  exact ⟨⟨rfl, rfl⟩, rfl⟩

theorem succeeds_of_reopen {at' : Moment} {reopener reason : String}
    (h : e.reopen at' reopener reason = .ok r) : r.Succeeds e ∧ r.isClosed = false := by
  obtain rfl := eq_of_reopen h
  exact ⟨⟨rfl, rfl⟩, rfl⟩

end Record

/-! ## Commands -/

namespace Command

theorem stores_of_create {p : Proposal} (hg : s.working.IsTable)
    (h : (create ctx p actor).run s = .ok v t) :
    ∃ name r, actor = some name ∧ Text.isBlankText p.comment = false ∧
      p.firstNumber ≠ p.secondNumber ∧
      s.working.NoOtherOpen none p.firstNumber p.secondNumber ∧
      p.record name ctx.now = .ok r ∧ s.working.Stores r v t.working := by
  unfold create at h
  dsimp only at h
  simp only [bind_eq_ok, requireActor_eq_ok, guard_reject_eq_ok, guard_throw_eq_ok, lookUp_eq_ok,
    requireNoOtherOpen_eq_ok, attempt_eq_ok] at h
  obtain ⟨name, _, ⟨hname, -, rfl⟩, hdiffer, -, hspoken, _, _, ⟨_, -, -, rfl⟩, _, _,
    ⟨-, halone, rfl⟩, r, _, ⟨hr, rfl⟩, hsave⟩ := h
  have hstores := stores_of_save (by exact hg) hsave
  exact ⟨name, r, hname, by simpa using hspoken, by simpa using hdiffer, halone, hr, hstores⟩

theorem stores_of_amend {a : Amendment} (hg : s.working.IsTable)
    (h : (amend ctx id actor a).run s = .ok v t) :
    ∃ e name r, actor = some name ∧ s.working.find? id = some e ∧
      e.amend name ctx.now a = .ok r ∧ s.working.Stores r v t.working := by
  unfold amend at h
  dsimp only at h
  simp only [bind_eq_ok, requireActor_eq_ok, guard_throw_eq_ok, require_eq_ok, attempt_eq_ok] at h
  obtain ⟨-, name, _, ⟨hname, -, rfl⟩, e, _, ⟨-, -, he, rfl⟩, r, _, ⟨hr, rfl⟩, hsave⟩ := h
  exact ⟨e, name, r, hname, he, hr, stores_of_save hg hsave⟩

/-- Who closes or reopens a record is the one who is given, or else the acting person. -/
theorem givenOrActor_eq_ok {given : Option String} {f : String → Action Record}
    (h : (match given? given with
      | some name => pure name >>= f
      | none => requireActor actor >>= f).run s = .ok v t) :
    ∃ name, (given? given <|> actor) = some name ∧ (f name).run s = .ok v t := by
  cases hgiven : given? given with
  | none =>
      simp only [hgiven, bind_eq_ok, requireActor_eq_ok] at h
      obtain ⟨name, _, ⟨hname, -, rfl⟩, h⟩ := h
      exact ⟨name, hname, h⟩
  | some name =>
      simp only [hgiven, bind_eq_ok, pure_eq_ok] at h
      obtain ⟨_, _, ⟨rfl, rfl⟩, h⟩ := h
      exact ⟨name, rfl, h⟩

theorem stores_of_close {reason closer : Option String} {at? : Option Moment}
    (hg : s.working.IsTable) (h : (close ctx id reason actor closer at?).run s = .ok v t) :
    ∃ e name r, s.working.find? id = some e ∧ e.isClosed = false ∧
      (given? closer <|> actor) = some name ∧
      e.close name reason (at?.getD ctx.now) = .ok r ∧ s.working.Stores r v t.working := by
  unfold close at h
  dsimp only at h
  simp only [bind_eq_ok, guard_reject_eq_ok, require_eq_ok] at h
  obtain ⟨e, _, ⟨-, -, he, rfl⟩, hopen, h⟩ := h
  obtain ⟨name, hname, h⟩ := givenOrActor_eq_ok h
  simp only [bind_eq_ok, check_eq_ok] at h
  obtain ⟨r, _, ⟨hr, rfl⟩, hsave⟩ := h
  exact ⟨e, name, r, he, by simpa using hopen, hname, hr, stores_of_save hg hsave⟩

theorem stores_of_reopen {reason reopener : Option String} {at? : Option Moment}
    (hg : s.working.IsTable) (h : (reopen ctx id reason actor reopener at?).run s = .ok v t) :
    ∃ e name r, s.working.find? id = some e ∧ e.isOpen = false ∧
      s.working.NoOtherOpen e.id e.firstNumber e.secondNumber ∧
      (given? reopener <|> actor) = some name ∧
      e.reopen (at?.getD ctx.now) name (reason.getD "") = .ok r ∧
      s.working.Stores r v t.working := by
  unfold reopen at h
  dsimp only at h
  simp only [bind_eq_ok, guard_reject_eq_ok, require_eq_ok, requireNoOtherOpen_eq_ok] at h
  obtain ⟨e, _, ⟨-, -, he, rfl⟩, hclosed, _, _, ⟨-, halone, rfl⟩, h⟩ := h
  obtain ⟨name, hname, h⟩ := givenOrActor_eq_ok h
  simp only [bind_eq_ok, check_eq_ok] at h
  obtain ⟨r, _, ⟨hr, rfl⟩, hsave⟩ := h
  exact ⟨e, name, r, he, by simpa using hclosed, halone, hname, hr, stores_of_save hg hsave⟩

variable {P : Session → Prop} [IsInvariant P]

instance (p : Proposal) : Keeps P (create ctx p actor) := by
  unfold create
  dsimp only
  infer_instance

instance (a : Amendment) : Keeps P (amend ctx id actor a) := by
  unfold amend
  dsimp only
  infer_instance

instance (reason closer : Option String) (at? : Option Moment) :
    Keeps P (close ctx id reason actor closer at?) := by
  unfold close
  dsimp only
  cases given? closer <;> infer_instance

instance (reason reopener : Option String) (at? : Option Moment) :
    Keeps P (reopen ctx id reason actor reopener at?) := by
  unfold reopen
  dsimp only
  cases given? reopener <;> infer_instance

end Command

end KeepApart
