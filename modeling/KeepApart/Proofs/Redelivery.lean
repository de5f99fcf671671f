import KeepApart.Proofs.Comments
import KeepApart.Proofs.Conflict

/-!
# Legacy updates that come again

An update of a stored record overwrites everything but its id, its pair, its time of creation and, while
it stays closed, the reason of its closure. What the record was before shows in these alone, and the same
update finds them again as it left them: it succeeds once more and changes nothing. Of the prisoner
numbers that it names an update reads only whether they differ.
-/

namespace KeepApart

open KeepApart.Action Register

variable {s t : Session} {defaults : SyncDefaults} {q : LegacyRequest} {d : Draft} {e r : Record}
variable {v : Saved} {id : Int} {today : Date} {now : Moment}

theorem Register.replace_replace (g : Register) (r : Record) :
    (g.replace r).replace r = g.replace r := by
  simp only [replace, List.map_map, Register.mk.injEq]
  apply List.map_congr_left
  intro e _
  by_cases h : e.id = r.id <;> simp [h]

/-! ## When an update succeeds -/

namespace Sync

theorem store_eq_ok {first second : String} :
    (store first second d).run s = .ok v t ↔
      (d.isClosed = false → s.isBroken = false ∧ s.working.NoOtherOpen d.id first second) ∧
        (saveDraft d).run s = .ok v t := by
  unfold store
  dsimp only
  cases hclosed : d.isClosed with
  | true => simp
  | false =>
      simp only [Bool.not_false, if_true, bind_eq_ok, requireNoOtherOpen_eq_ok, true_imp_iff]
      constructor
      · rintro ⟨_, _, ⟨hb, halone, rfl⟩, h⟩
        exact ⟨⟨hb, halone⟩, h⟩
      · rintro ⟨⟨hb, halone⟩, h⟩
        exact ⟨(), s, ⟨hb, halone, rfl⟩, h⟩

structure Overwrites (g : Register) (today : Date) (now : Moment) (defaults : SyncDefaults)
    (q : LegacyRequest) (e : Record) (d : Draft) (r : Record) : Prop where
  drafted : q.draft defaults defaults.noComment today = .ok d
  alone : d.isClosed = false → g.NoOtherOpen e.id e.firstNumber e.secondNumber
  consistent : (LegacyRequest.restated e d defaults now).closureConsistent = true
  held : (LegacyRequest.restated e d defaults now).HeldAs r
  closure : r.closureConsistent = true

theorem id_of_find? {g : Register} (h : g.find? id = some e) : e ∈ g.records ∧ e.id = some id := by
  unfold Register.find? at h
  exact ⟨List.mem_of_find?_eq_some h, by simpa using List.find?_some h⟩

theorem update_eq_ok (hid : q.id = some id) :
    (upsertOn today now defaults q).run s = .ok v t ↔
      s.isBroken = false ∧ Column.isStorable id = true ∧
        ∃ e d, s.working.find? id = some e ∧
          Overwrites s.working today now defaults q e d v.record ∧
            v.given = LegacyRequest.restated e d defaults now ∧
              { s with working := s.working.replace v.record } = t := by
  simp only [upsertOn, hid, bind_eq_ok, require_eq_ok, attempt_eq_ok, store_eq_ok]
  constructor
  · rintro ⟨e, _, ⟨hb, hstorable, he, rfl⟩, d, _, ⟨hd, rfl⟩, halone, h⟩
    obtain ⟨-, heid⟩ := id_of_find? he
    obtain ⟨-, -, -, hconsistent, hheld, hclosure, hgiven, rfl⟩ :=
      (saveDraft_over_eq_ok (d := LegacyRequest.restated e d defaults now) heid).1 h
    exact ⟨hb, hstorable, e, d, he, ⟨hd, fun hopen => (halone hopen).2, hconsistent, hheld, hclosure⟩,
      hgiven, rfl⟩
  · rintro ⟨hb, hstorable, e, d, he, ⟨hd, halone, hconsistent, hheld, hclosure⟩, hgiven, rfl⟩
    obtain ⟨hmem, heid⟩ := id_of_find? he
    refine ⟨e, s, ⟨hb, hstorable, he, rfl⟩, d, s, ⟨hd, rfl⟩, fun hopen => ⟨hb, halone hopen⟩, ?_⟩
    exact (saveDraft_over_eq_ok (d := LegacyRequest.restated e d defaults now) heid).2
      ⟨hb, hstorable, ⟨e, hmem, heid⟩, hconsistent, hheld, hclosure, hgiven, rfl⟩

/-! ## What an update keeps of the record before -/

theorem text_textOr_held {stored held : Option String} {default : Json}
    (h : Column.text (LegacyRequest.textOr stored default) = .ok held) :
    Column.text (LegacyRequest.textOr held default) = .ok held := by
  unfold LegacyRequest.textOr at h ⊢
  cases hheld : given? held with
  | some text =>
      obtain ⟨rfl, -⟩ := given?_eq_some.1 hheld
      rfl
  | none =>
      -- A text that was given is held as it is, so nothing given stands behind an empty one.
      cases hstored : given? stored with
      | some text =>
          rw [hstored] at h
          obtain rfl := Except.ok.inj h
          rw [given?_eq_some.2 ⟨rfl, (given?_eq_some.1 hstored).2⟩] at hheld
          cases hheld
      | none =>
          rw [hstored] at h
          exact h

/-- What of the stored record `e` is left in the record `r` that overwrites it. The reason of a closure
stays, or else is the default. -/
structure Restates (defaults : SyncDefaults) (r e : Record) : Prop where
  id : r.id = e.id
  pair : r.pair = e.pair
  created : r.whenCreated = e.whenCreated
  opened : r.isClosed = false → r.closedReason = none
  kept : r.isClosed = true → ∀ reason, given? e.closedReason = some reason →
    r.closedReason = some reason
  filled : r.isClosed = true → given? e.closedReason = none →
    Column.text defaults.syncClosureReason = .ok r.closedReason

namespace Overwrites

variable {g : Register} {e₁ e₂ r₁ r₂ : Record} {d₁ d₂ : Draft}

theorem restates (h : Overwrites g today now defaults q e d r) : Restates defaults r e := by
  have hreason := h.held.closedReason
  have hclosed : r.isClosed = d.isClosed := h.held.isClosed
  simp only [LegacyRequest.restated] at hreason
  refine ⟨h.held.id, h.held.pair rfl rfl, h.held.created, ?_, ?_, ?_⟩
  · intro hopen
    rw [← hclosed, hopen] at hreason
    exact (Except.ok.inj hreason).symm
  · intro hclose reason hgiven
    rw [← hclosed, if_pos hclose, LegacyRequest.textOr, hgiven] at hreason
    exact (Except.ok.inj hreason).symm
  · intro hclose hgiven
    rw [← hclosed, if_pos hclose, LegacyRequest.textOr, hgiven] at hreason
    exact hreason

/-- Two updates by one request agree in everything that is not left of the records before. -/
theorem agree {g₁ g₂ : Register} (h₁ : Overwrites g₁ today now defaults q e₁ d₁ r₁)
    (h₂ : Overwrites g₂ today now defaults q e₂ d₂ r₂) (hid : e₁.id = e₂.id) :
    r₁ = { r₂ with
      firstNumber := r₁.firstNumber, secondNumber := r₁.secondNumber, whenCreated := r₁.whenCreated,
      closedReason := r₁.closedReason } := by
  obtain rfl := Except.ok.inj (h₁.drafted.symm.trans h₂.drafted)
  have ha := h₁.held
  have hb := h₂.held
  obtain ⟨_, _, _, _, _, _, _, _, _, _, _, _, _, _, _, _⟩ := r₁
  obtain ⟨_, _, _, _, _, _, _, _, _, _, _, _, _, _, _, _⟩ := r₂
  simp only [Record.mk.injEq, true_and]
  exact ⟨ha.id.trans (hid.trans hb.id.symm), ha.roles.1.trans hb.roles.1.symm,
    ha.roles.2.trans hb.roles.2.symm, ha.reason.trans hb.reason.symm,
    ha.restriction.trans hb.restriction.symm,
    Option.some.inj (Except.ok.inj (ha.comment.symm.trans hb.comment)),
    Except.ok.inj (ha.authorisedBy.symm.trans hb.authorisedBy), ha.updated.trans hb.updated.symm,
    Option.some.inj (Except.ok.inj (ha.updatedBy.symm.trans hb.updatedBy)),
    ha.isClosed.trans hb.isClosed.symm,
    Except.ok.inj (ha.closedBy.symm.trans hb.closedBy), ha.closedAt.trans hb.closedAt.symm⟩

/-- A draft whose reason of closure is held as some text has one. -/
theorem isNull_of_held {value : Json} {held : Option String} (h : Column.text value = .ok held)
    (hsome : held.isSome = true) : value.isNull = false := by
  cases value with
  | null =>
      obtain rfl := Except.ok.inj h
      cases hsome
  | _ => rfl

theorem again {h : Register} (ho : Overwrites g today now defaults q e d r)
    (hh : g.IsUpdate r h) : Overwrites h today now defaults q r d r := by
  have hkept := ho.restates
  have hreason : Column.text (LegacyRequest.restated r d defaults now).closedReason =
      .ok r.closedReason := by
    have hbefore := ho.held.closedReason
    simp only [LegacyRequest.restated] at hbefore ⊢
    cases hclosed : d.isClosed with
    | true =>
        rw [hclosed] at hbefore
        exact text_textOr_held hbefore
    | false =>
        rw [hclosed] at hbefore
        exact hbefore
  refine ⟨ho.drafted, ?_, ?_, ?_, ho.closure⟩
  · intro hopen f hf hfopen hbetween
    rcases (hh.mem_iff f).1 hf with rfl | ⟨hf, -⟩
    · rfl
    · obtain ⟨hfirst, hsecond⟩ := Prod.mk.inj hkept.pair
      rw [hfirst, hsecond] at hbetween
      rw [hkept.id]
      exact ho.alone hopen f hf hfopen hbetween
  · have hconsistent := ho.consistent
    by_cases hclosed : d.isClosed = true
    · have hclosure := ho.closure
      have hrclosed : r.isClosed = true := ho.held.isClosed.trans hclosed
      simp only [Record.closureConsistent, hrclosed, if_true, Bool.and_eq_true] at hclosure
      simp only [LegacyRequest.restated, hclosed, if_true] at hreason
      have hthere := isNull_of_held hreason hclosure.1.2
      simp only [Draft.closureConsistent, LegacyRequest.restated, hclosed, if_true,
        Bool.and_eq_true, hthere] at hconsistent ⊢
      exact ⟨⟨hconsistent.1.1, rfl⟩, hconsistent.2⟩
    · simp only [Draft.closureConsistent, LegacyRequest.restated, hclosed, if_false,
        Bool.false_eq_true] at hconsistent ⊢
      exact hconsistent
  · exact ⟨rfl, rfl, ho.held.comment, ho.held.authorisedBy, ho.held.updatedBy, ho.held.closedBy,
      hreason, rfl, ho.held.roles, ho.held.reason, ho.held.restriction, rfl, ho.held.updated,
      ho.held.isClosed, ho.held.closedAt⟩

end Overwrites

/-! ## Redelivery -/

theorem isUpdate_of_find? {g : Register} (hg : g.IsTable) (he : g.find? id = some e)
    (hid : r.id = e.id) : g.IsUpdate r (g.replace r) :=
  hg.isUpdate_replace (id_of_find? he).1 hid.symm

theorem update_again {u : Session} (hg : s.working.IsTable) (hid : q.id = some id)
    (h : (upsertOn today now defaults q).run s = .ok v t) (hb : u.isBroken = false)
    (hu : u.working = t.working) :
    ∃ w, (upsertOn today now defaults q).run u = .ok w u ∧ w.record = v.record := by
  obtain ⟨-, hstorable, e, d, he, ho, -, rfl⟩ := (update_eq_ok hid).1 h
  have hkept := ho.restates
  have hupdate := isUpdate_of_find? hg he hkept.id
  have hrid : v.record.id = some id := hkept.id.trans (id_of_find? he).2
  have hfound : u.working.find? id = some v.record := by
    rw [hu]
    exact hupdate.table.find?_eq_some_iff.2 ⟨(hupdate.mem_iff _).2 (.inl rfl), hrid⟩
  have hagain : Overwrites u.working today now defaults q v.record d v.record := by
    rw [hu]
    exact ho.again hupdate
  have hsame : { u with working := u.working.replace v.record } = u := by
    rw [hu]
    change { u with working := (s.working.replace v.record).replace v.record } = u
    rw [Register.replace_replace]
    exact congrArg (fun g => { u with working := g }) hu.symm
  refine ⟨⟨v.record, LegacyRequest.restated v.record d defaults now⟩, ?_, rfl⟩
  exact (update_eq_ok hid).2 ⟨hb, hstorable, v.record, d, hfound, hagain, rfl, hsame⟩

/-- An update that succeeded on a table succeeds again, in the same session or another one, and changes
nothing. The record that it leaves has the id, the pair and the time of creation of the one before, and
the reason of its closure, or else the default. In all other things it is the same, whatever the table
held before. -/
theorem redelivered_update_changes_nothing (hid : q.id = some id) :
    (∀ s t v, s.working.IsTable → (upsertOn today now defaults q).run s = .ok v t →
      ∀ u : Session, u.isBroken = false → u.working = t.working →
        ∃ w, (upsertOn today now defaults q).run u = .ok w u ∧ w.record = v.record) ∧
    (∀ s t v, s.working.IsTable → (upsertOn today now defaults q).run s = .ok v t →
      ∃ e, s.working.find? id = some e ∧ t.working.find? id = some v.record ∧
        Restates defaults v.record e) ∧
    ∀ s₁ t₁ v₁ s₂ t₂ v₂, (upsertOn today now defaults q).run s₁ = .ok v₁ t₁ →
      (upsertOn today now defaults q).run s₂ = .ok v₂ t₂ →
        v₁.record = { v₂.record with
          firstNumber := v₁.record.firstNumber, secondNumber := v₁.record.secondNumber,
          whenCreated := v₁.record.whenCreated, closedReason := v₁.record.closedReason } := by
  refine ⟨?_, ?_, ?_⟩
  · intro s t v hg h u hb hu
    exact update_again hg hid h hb hu
  · intro s t v hg h
    obtain ⟨-, -, e, d, he, ho, -, rfl⟩ := (update_eq_ok hid).1 h
    have hkept := ho.restates
    have hupdate := isUpdate_of_find? hg he hkept.id
    refine ⟨e, he, ?_, hkept⟩
    exact hupdate.table.find?_eq_some_iff.2
      ⟨(hupdate.mem_iff _).2 (.inl rfl), hkept.id.trans (id_of_find? he).2⟩
  · intro s₁ t₁ v₁ s₂ t₂ v₂ h₁ h₂
    obtain ⟨-, -, e₁, d₁, he₁, ho₁, -, -⟩ := (update_eq_ok hid).1 h₁
    obtain ⟨-, -, e₂, d₂, he₂, ho₂, -, -⟩ := (update_eq_ok hid).1 h₂
    exact ho₁.agree ho₂ ((id_of_find? he₁).2.trans (id_of_find? he₂).2.symm)

/-- A record is closed for an empty reason, beside an open one of the same two prisoners. The update
closes it on another day and fills in the default, which the next one finds. -/
theorem redelivered_update_changes_nothing_filled :
    ∃ (s t : Session) (v w : Saved) (q : LegacyRequest), q.id = some 1 ∧ s.working.IsTable ∧
      (upsertOn ⟨9⟩ ⟨Moment.microsPerDay⟩ {} q).run s = .ok v t ∧ t.working ≠ s.working ∧
      v.record.closedReason = some "UNDEFINED" ∧
      (upsertOn ⟨9⟩ ⟨Moment.microsPerDay⟩ {} q).run t = .ok w t ∧ w.record = v.record := by
  let shut : Record := { Merge.plain 1 "A1" "B2" with
    isClosed := true, closedBy := some "USER", closedReason := some "", closedAt := some Moment.earliest }
  let s : Session := .start ⟨[shut, Merge.plain 2 "B2" "A1"]⟩
  let q : LegacyRequest := { LegacyRequest.plain "C3" "D4" none with id := some 1, expiry := some ⟨3⟩ }
  have hg : s.working.IsTable := by
    constructor <;> simp [s, shut, Merge.plain, Session.start, Register.ids, Column.isStorable]
  obtain ⟨v, t, h, hreason, hchanged⟩ : ∃ v t,
      (upsertOn ⟨9⟩ ⟨Moment.microsPerDay⟩ {} q).run s = .ok v t ∧
        v.record.closedReason = some "UNDEFINED" ∧ t.working ≠ s.working :=
    ⟨_, _, rfl, rfl, by decide⟩
  have hid : q.id = some 1 := rfl
  have hb : t.isBroken = false := by
    obtain ⟨hb, -, -, -, -, -, -, rfl⟩ := (update_eq_ok hid).1 h
    exact hb
  obtain ⟨w, hagain, hsame⟩ := (redelivered_update_changes_nothing hid).1 s t v hg h t hb rfl
  exact ⟨s, t, v, w, q, rfl, hg, h, hchanged, hreason, hagain, hsame⟩

end Sync

/-! ## The prisoner numbers of an update -/

def Draft.naming (d : Draft) (a b : String) : Draft :=
  { d with firstNumber := .str a, secondNumber := .str b }

namespace LegacyRequest

def naming (q : LegacyRequest) (a b : String) : LegacyRequest :=
  { q with firstNumber := a, secondNumber := b }

/-- Of two numbers that differ the draft of a request holds the numbers and nothing else. -/
theorem draft_naming {noComment : Json} {a b a' b' : String} (hab : a ≠ b) (hab' : a' ≠ b') :
    (q.naming a' b').draft defaults noComment today =
      (·.naming a' b') <$> (q.naming a b).draft defaults noComment today := by
  have hdiffer : (a == b) = false := beq_eq_false_iff_ne.2 hab
  have hdiffer' : (a' == b') = false := beq_eq_false_iff_ne.2 hab'
  simp only [draft, naming, hdiffer, hdiffer']
  cases Vocabulary.read LegacyReason q.firstReason with
  | error => rfl
  | ok first =>
      cases Vocabulary.read LegacyReason q.secondReason with
      | error => rfl
      | ok second => cases Vocabulary.read LegacyRestriction q.restriction <;> rfl

theorem draft_same {noComment : Json} {a : String} :
    (q.naming a a).draft defaults noComment today = .error (.rejected (.invalid .samePrisoner)) := by
  simp only [draft, naming, BEq.rfl, if_true]
  rfl

end LegacyRequest

namespace Sync

open LegacyRequest

theorem upsertOn_naming {a b a' b' : String} (hid : q.id = some id) (hab : a ≠ b) (hab' : a' ≠ b') :
    upsertOn today now defaults (q.naming a b) = upsertOn today now defaults (q.naming a' b') := by
  have hnaming (x y : String) : (q.naming x y).id = some id := hid
  simp only [upsertOn, hnaming]
  congr 1
  funext e
  rw [draft_naming hab hab']
  -- The numbers of the draft give way to those of the stored record.
  cases (q.naming a b).draft defaults defaults.noComment today <;> rfl

theorem scope_update (hid : q.id = some id) (g : Register) :
    (∃ v, Storage.scope (upsertOn today now defaults q) g = (.ok v, g.replace v.record)) ∨
      ∃ f, Storage.scope (upsertOn today now defaults q) g = (.error f, g) := by
  have hsnd := scope_snd (upsertOn today now defaults q) g
  simp only [Storage.scope, Session.transact] at hsnd ⊢
  cases h : (upsertOn today now defaults q).run (Session.start g) with
  | ok v t =>
      obtain ⟨-, -, -, -, -, -, -, rfl⟩ := (update_eq_ok hid).1 h
      exact .inl ⟨v, rfl⟩
  | error f t =>
      rw [h] at hsnd
      exact .inr ⟨f, Prod.ext rfl hsnd⟩

/-- Updates by requests that differ in the prisoner numbers alone do the same, as long as each names
two prisoners: they store the same record or fail alike and change nothing. An update that names one
prisoner twice is refused, although the stored record has two. -/
theorem update_reads_whether_numbers_differ (hid : q.id = some id) :
    (∀ a b a' b', a ≠ b → a' ≠ b' →
      upsertOn today now defaults (q.naming a b) = upsertOn today now defaults (q.naming a' b') ∧
        ∀ g, (∃ v, Storage.scope (upsertOn today now defaults (q.naming a b)) g =
            (.ok v, g.replace v.record)) ∨
          ∃ f, Storage.scope (upsertOn today now defaults (q.naming a b)) g = (.error f, g)) ∧
    ∀ a (s : Session), s.isBroken = false → s.working.IsTable →
      (s.working.find? id).isSome = true →
        (upsertOn today now defaults (q.naming a a)).run s =
          .error (.rejected (.invalid .samePrisoner)) s := by
  constructor
  · intro a b a' b' hab hab'
    exact ⟨upsertOn_naming hid hab hab', scope_update hid⟩
  · rintro a s hb hg hstored
    obtain ⟨e, he⟩ := Option.isSome_iff_exists.1 hstored
    obtain ⟨hmem, heid⟩ := id_of_find? he
    obtain ⟨n, hn, hstorable⟩ := hg.exists_id hmem
    obtain rfl := Option.some.inj (hn.symm.trans heid)
    have hnaming : (q.naming a a).id = some n := hid
    rw [upsertOn, hnaming, draft_same]
    refine bind_eq_error.2 (.inr ⟨e, s, require_eq_ok.2 ⟨hb, hstorable, he, rfl⟩, ?_⟩)
    exact bind_eq_error.2 (.inl (attempt_eq_error.2 ⟨rfl, rfl⟩))

/-- Two numbers that are not stored do as well as two others; one number twice does not do. -/
theorem update_reads_whether_numbers_differ_plain :
    ∃ (s : Session) (q : LegacyRequest), q.id = some 1 ∧ s.isBroken = false ∧ s.working.IsTable ∧
      (∃ v t, (upsertOn ⟨9⟩ Moment.earliest {} (q.naming "X" "Y")).run s = .ok v t ∧
        v.record.pair = ("A1", "B2")) ∧
      upsertOn ⟨9⟩ Moment.earliest {} (q.naming "B2" "C3") =
        upsertOn ⟨9⟩ Moment.earliest {} (q.naming "X" "Y") ∧
      (upsertOn ⟨9⟩ Moment.earliest {} (q.naming "X" "X")).run s =
        .error (.rejected (.invalid .samePrisoner)) s := by
  let s : Session := .start Merge.couple
  let q : LegacyRequest := { LegacyRequest.plain "C3" "D4" none with id := some 1 }
  have hg : s.working.IsTable := Merge.isSound_couple.table
  have hid : q.id = some 1 := rfl
  have hsame : upsertOn ⟨9⟩ Moment.earliest {} (q.naming "B2" "C3") =
      upsertOn ⟨9⟩ Moment.earliest {} (q.naming "X" "Y") :=
    ((update_reads_whether_numbers_differ hid).1 "B2" "C3" "X" "Y" (by decide) (by decide)).1
  have hrefused : (upsertOn ⟨9⟩ Moment.earliest {} (q.naming "X" "X")).run s =
      .error (.rejected (.invalid .samePrisoner)) s :=
    (update_reads_whether_numbers_differ hid).2 "X" s rfl hg rfl
  exact ⟨s, q, hid, rfl, hg, ⟨_, _, rfl, rfl⟩, hsame, hrefused⟩

end Sync

end KeepApart
