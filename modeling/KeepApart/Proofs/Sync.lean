import KeepApart.Legacy.Sync
import KeepApart.Proofs.Action

/-!
# What legacy requests store

A legacy request that is accepted stores one record: a new one of the two prisoners it names, or one in
the place of a stored record, whose pair it keeps. Unless the dates close it, the pair has no other open
record.
-/

namespace KeepApart

open KeepApart.Action Register

variable {s t : Session} {defaults : SyncDefaults} {q : LegacyRequest} {d : Draft} {r : Record}
variable {v : Saved}

namespace LegacyRequest

structure HasCodes (q : LegacyRequest) (first second : LegacyReason) (kind : LegacyRestriction) :
    Prop where
  readFirst : Vocabulary.read LegacyReason q.firstReason = .ok first
  readSecond : Vocabulary.read LegacyReason q.secondReason = .ok second
  readKind : Vocabulary.read LegacyRestriction q.restriction = .ok kind

def drafted (q : LegacyRequest) (defaults : SyncDefaults) (noComment : Json) (today : Date)
    (first second : LegacyReason) (kind : LegacyRestriction) : Draft :=
  let user := textOr q.modifiedBy defaults.systemUser
  let created := Moment.ofDate (Date.notAfter (some q.effective) today)
  let closed := Standing.on today q.effective q.expiry == .closed
  { id := none
    firstNumber := .str q.firstNumber
    firstRole := first.role
    secondNumber := .str q.secondNumber
    secondRole := second.role
    reason := first.pairReason second
    restriction := kind.modern
    comment := textOr q.comment noComment
    authorisedBy := .ofText? q.authorisedBy
    whenCreated := created
    whenUpdated := created
    updatedBy := user
    isClosed := closed
    closedBy := if closed then user else .null
    closedReason := if closed then defaults.noClosureReason else .null
    closedAt := if closed then some (Moment.ofDate (Date.notAfter q.expiry today)) else none }

theorem eq_of_draft {noComment : Json} {today : Date}
    (h : q.draft defaults noComment today = .ok d) :
    q.firstNumber ≠ q.secondNumber ∧ ∃ first second kind, q.HasCodes first second kind ∧
      d = q.drafted defaults noComment today first second kind := by
  unfold draft at h
  dsimp only at h
  rw [except_guard_eq_ok] at h
  obtain ⟨hdiffer, h⟩ := h
  simp only [except_bind_eq_ok] at h
  obtain ⟨first, hfirst, second, hsecond, kind, hkind, h⟩ := h
  exact ⟨by simpa using hdiffer, first, second, kind, ⟨hfirst, hsecond, hkind⟩,
    (Except.ok.inj h).symm⟩

theorem draft_of_accepted {noComment : Json} {today : Date}
    (h : q.draft defaults noComment today = .ok d) :
    q.firstNumber ≠ q.secondNumber ∧ d.id = none ∧ d.firstNumber = .str q.firstNumber ∧
      d.secondNumber = .str q.secondNumber ∧
      d.isClosed = (Standing.on today q.effective q.expiry == .closed) := by
  obtain ⟨hdiffer, first, second, kind, -, rfl⟩ := eq_of_draft h
  exact ⟨hdiffer, rfl, rfl, rfl, rfl⟩

def InForce (q : LegacyRequest) (today : Date) : Prop :=
  q.effective ≤ today ∧ ∀ expiry ∈ q.expiry, today < expiry

theorem standing_eq_opened_iff {today : Date} :
    Standing.on today q.effective q.expiry = .opened ↔ q.InForce today := by
  have hexpiry : q.expiry.all (today < ·) = true ↔ ∀ expiry ∈ q.expiry, today < expiry := by
    cases q.expiry <;> simp
  simp only [Standing.on, hexpiry, InForce]
  split <;> simp_all

theorem isClosed_eq_false_iff {noComment : Json} {today : Date}
    (h : q.draft defaults noComment today = .ok d) : d.isClosed = false ↔ q.InForce today := by
  rw [← standing_eq_opened_iff, (draft_of_accepted h).2.2.2.2]
  cases Standing.on today q.effective q.expiry <;> decide

end LegacyRequest

theorem Draft.HeldAs.pair {first second : String} (h : d.HeldAs r)
    (hfirst : d.firstNumber = .str first) (hsecond : d.secondNumber = .str second) :
    r.pair = (first, second) := by
  have hfirst' := h.firstNumber
  have hsecond' := h.secondNumber
  rw [hfirst, Column.text, Except.ok.injEq, Option.some.injEq] at hfirst'
  rw [hsecond, Column.text, Except.ok.injEq, Option.some.injEq] at hsecond'
  rw [Record.pair, ← hfirst', ← hsecond']

namespace Sync

theorem stores_of_store {first second : String} (hg : s.working.IsTable)
    (h : (store first second d).run s = .ok v t) :
    (d.isClosed = false → s.working.NoOtherOpen d.id first second) ∧
      ∃ r, d.HeldAs r ∧ s.working.Stores r v.record t.working := by
  unfold store at h
  dsimp only at h
  cases hclosed : d.isClosed with
  | true =>
      simp only [hclosed, Bool.not_true, Bool.false_eq_true, if_false] at h
      exact ⟨nofun, stores_of_saveDraft hg h⟩
  | false =>
      simp only [hclosed, Bool.not_false, if_true, bind_eq_ok, requireNoOtherOpen_eq_ok] at h
      obtain ⟨_, _, ⟨-, halone, rfl⟩, h⟩ := h
      exact ⟨fun _ => halone, stores_of_saveDraft hg h⟩

theorem isOpen_of_heldAs (hr : d.HeldAs r) (hopen : r.isOpen = true) : d.isClosed = false := by
  rw [← hr.isClosed]
  simpa [Record.isOpen] using hopen

theorem stores_of_upsert_new {today : Date} {now : Moment} (hg : s.working.IsTable)
    (hid : q.id = none) (h : (upsertOn today now defaults q).run s = .ok v t) :
    ∃ d r, q.draft defaults defaults.noComment today = .ok d ∧
      (d.isClosed = false → s.working.NoOtherOpen d.id q.firstNumber q.secondNumber) ∧
      d.HeldAs r ∧ s.working.Stores r v.record t.working := by
  simp only [upsertOn, hid, bind_eq_ok, attempt_eq_ok] at h
  obtain ⟨d, _, ⟨hd, rfl⟩, h⟩ := h
  obtain ⟨halone, r, hr, hstores⟩ := stores_of_store hg h
  exact ⟨d, r, hd, halone, hr, hstores⟩

theorem stores_of_upsert_again {today : Date} {now : Moment} {id : Int} (hg : s.working.IsTable)
    (hid : q.id = some id) (h : (upsertOn today now defaults q).run s = .ok v t) :
    ∃ e d r, s.working.find? id = some e ∧ q.draft defaults defaults.noComment today = .ok d ∧
      (d.isClosed = false → s.working.NoOtherOpen e.id e.firstNumber e.secondNumber) ∧
      (LegacyRequest.restated e d defaults now).HeldAs r ∧
      s.working.Stores r v.record t.working := by
  simp only [upsertOn, hid, bind_eq_ok, require_eq_ok, attempt_eq_ok] at h
  obtain ⟨e, _, ⟨-, -, he, rfl⟩, d, _, ⟨hd, rfl⟩, h⟩ := h
  obtain ⟨halone, r, hr, hstores⟩ := stores_of_store hg h
  exact ⟨e, d, r, he, hd, halone, hr, hstores⟩

theorem stores_of_migrate {now : Moment} (hg : s.working.IsTable)
    (h : (migrate now defaults q).run s = .ok v t) :
    ∃ d r, q.draft defaults defaults.migratedNoComment now.date = .ok d ∧
      (d.isClosed = false → s.working.NoOtherOpen d.id q.firstNumber q.secondNumber) ∧
      { d with
        authorisedBy := if d.authorisedBy.isNull then defaults.systemUser else d.authorisedBy }.HeldAs
          r ∧
      s.working.Stores r v.record t.working := by
  simp only [migrate, bind_eq_ok, attempt_eq_ok] at h
  obtain ⟨d, _, ⟨hd, rfl⟩, h⟩ := h
  obtain ⟨halone, r, hr, hstores⟩ := stores_of_store hg h
  exact ⟨d, r, hd, halone, hr, hstores⟩

variable {P : Session → Prop} [IsInvariant P]

instance (first second : String) (d : Draft) : Keeps P (store first second d) := by
  unfold store
  dsimp only
  infer_instance

instance (today : Date) (now : Moment) (defaults : SyncDefaults) (q : LegacyRequest) :
    Keeps P (upsertOn today now defaults q) := by
  cases hid : q.id <;> simp only [upsertOn, hid] <;> infer_instance

instance (now : Moment) (defaults : SyncDefaults) (q : LegacyRequest) :
    Keeps P (migrate now defaults q) := by
  unfold migrate
  infer_instance

end Sync

end KeepApart
