import Mathlib.Tactic.Common
import KeepApart.Record.Draft

/-!
# Drafts and their records

A draft becomes a record exactly when storage holds each of its texts as the record has it; everything
else is the same in both.
-/

namespace KeepApart

theorem except_bind_eq_ok {ε α β : Type} {x : Except ε α} {f : α → Except ε β} {b : β} :
    (x >>= f) = .ok b ↔ ∃ a, x = .ok a ∧ f a = .ok b := by
  cases x with
  | ok a => simp [bind, Except.bind]
  | error e => simp [bind, Except.bind]

theorem except_guard_eq_ok {ε α β : Type} {c : Prop} [Decidable c] {e : ε} {f : β → Except ε α}
    {x : Except ε α} {a : α} : (if c then throw e >>= f else x) = .ok a ↔ ¬ c ∧ x = .ok a := by
  by_cases hc : c
  · simp [hc, throw, throwThe, MonadExceptOf.throw, bind, Except.bind]
  · simp [hc]

namespace Draft

/-- The record `r` is what storage holds of a draft. -/
structure HeldAs (d : Draft) (r : Record) : Prop where
  firstNumber : Column.text d.firstNumber = .ok (some r.firstNumber)
  secondNumber : Column.text d.secondNumber = .ok (some r.secondNumber)
  comment : Column.text d.comment = .ok (some r.comment)
  authorisedBy : Column.text d.authorisedBy = .ok r.authorisedBy
  updatedBy : Column.text d.updatedBy = .ok (some r.updatedBy)
  closedBy : Column.text d.closedBy = .ok r.closedBy
  closedReason : Column.text d.closedReason = .ok r.closedReason
  id : r.id = d.id
  roles : r.firstRole = d.firstRole ∧ r.secondRole = d.secondRole
  reason : r.reason = d.reason
  restriction : r.restriction = d.restriction
  created : r.whenCreated = d.whenCreated
  updated : r.whenUpdated = d.whenUpdated
  isClosed : r.isClosed = d.isClosed
  closedAt : r.closedAt = d.closedAt

theorem column_eq_ok {value : Json} {s : Option String} :
    column value = .ok s ↔ Column.text value = .ok s := by
  unfold column
  cases Column.text value <;> simp [Except.mapError]

theorem need_eq_ok {text : RequiredText} {s : Option String} {held : String} :
    need text s = .ok held ↔ s = some held := by
  cases s <;> simp [need]

theorem record_eq_ok {d : Draft} {r : Record} : d.record = .ok r ↔ d.HeldAs r := by
  simp only [record, except_bind_eq_ok, column_eq_ok, need_eq_ok]
  constructor
  · rintro ⟨_, h₁, _, h₂, _, h₃, authorisedBy, h₄, _, h₅, closedBy, h₆, closedReason, h₇,
      _, rfl, _, rfl, _, rfl, _, rfl, hr⟩
    obtain rfl := Except.ok.inj hr
    exact ⟨h₁, h₂, h₃, h₄, h₅, h₆, h₇, rfl, ⟨rfl, rfl⟩, rfl, rfl, rfl, rfl, rfl, rfl⟩
  · intro h
    refine ⟨_, h.firstNumber, _, h.secondNumber, _, h.comment, _, h.authorisedBy, _, h.updatedBy,
      _, h.closedBy, _, h.closedReason, _, rfl, _, rfl, _, rfl, _, rfl, ?_⟩
    rw [← h.id, ← h.roles.1, ← h.roles.2, ← h.reason, ← h.restriction, ← h.created, ← h.updated,
      ← h.isClosed, ← h.closedAt]
    rfl

end Draft

end KeepApart
