import KeepApart.Proofs.Events
import KeepApart.Proofs.Timestamp

/-!
# The entry points of a merge

A merge is asked for with or without bounds on the time of creation, or it follows from an event. Two
events bring one, and they do what the merge of the numbers that they name does. Of a booking that moved
only the moments count between which it lasted, however they are written.
-/

namespace KeepApart

theorem Json.exists_fields_of_get {v : Json} {key : String} (h : (v.get key).isNothing = false) :
    ∃ fields, v = .obj fields := by
  cases v with
  | obj fields => exact ⟨fields, rfl⟩
  | _ => cases h

namespace PrisonerEvent

variable {e e' : PrisonerEvent} {old new v : Json} {key field : String} {now : Moment} {w : Window}
variable {since since' finish finish' : Stamp}

/-! ## What events tell -/

structure TellsMerge (e : PrisonerEvent) (old new : Json) : Prop where
  kind : e.kind = mergedKind
  removed : e.information.get "removedNomsNumber" = old
  kept : e.information.get "nomsNumber" = new

structure TellsMove (e : PrisonerEvent) (old new : Json) : Prop where
  kind : e.kind = bookingMovedKind
  source : e.information.get "movedFromNomsNumber" = old
  goal : e.information.get "movedToNomsNumber" = new

structure TellsTime (e : PrisonerEvent) (since finish : Stamp) : Prop where
  start : e.information.get "bookingStartDateTime" = .str since.text
  occurred : e.occurredAt = .str finish.text
  inside : since.instant.InCalendar ∧ finish.instant.InCalendar

/-! ## What events come to -/

theorem requireItem_of_get (hv : v.isNothing = false) (h : e.information.get key = v) :
    requireItem e.information key = .ok v := by
  subst h
  obtain ⟨fields, hfields⟩ := Json.exists_fields_of_get hv
  rw [requireItem, item_of_fields hfields]
  exact if_neg (by rw [hv]; exact Bool.false_ne_true)

theorem timestamp?_text {t : Stamp} (ht : t.instant.InCalendar) :
    timestamp? field (.str t.text) = .ok (some t.instant) :=
  timestamp?_of_means (.text (Timestamp.moment?_text t)) ht

section Named

variable (hold : old.isNothing = false) (hnew : new.isNothing = false)
include hold hnew

theorem apply_of_tellsMerge (now : Moment) (h : e.TellsMerge old new) :
    e.apply now = some <$> Merge.ofValues old new {} := by
  have hnames : e.Names now old new {} :=
    .merged h.kind (requireItem_of_get hold h.removed) (requireItem_of_get hnew h.kept)
  rw [apply_of_names hnames, map_eq_pure_bind]

theorem apply_of_tellsMove (h : e.TellsMove old new) (hwindow : e.bookingWindow now = .ok w) :
    e.apply now = some <$> Merge.ofValues old new w := by
  have hnames : e.Names now old new w :=
    .moved h.kind hwindow (requireItem_of_get hold h.source) (requireItem_of_get hnew h.goal)
  rw [apply_of_names hnames, map_eq_pure_bind]

theorem apply_of_no_start (now : Moment) (h : e.TellsMove old new)
    (hstart : e.information.get "bookingStartDateTime" = .null) :
    e.apply now = some <$> Merge.ofValues old new {} := by
  have hsource : (e.information.get "movedFromNomsNumber").isNothing = false := by
    rw [h.source]
    exact hold
  obtain ⟨fields, hfields⟩ := Json.exists_fields_of_get hsource
  apply apply_of_tellsMove hold hnew h
  apply bookingWindow_of_null hfields
  rw [hstart]
  rfl

theorem apply_of_tellsTime (now : Moment) (h : e.TellsMove old new) (htime : e.TellsTime since finish) :
    e.apply now = some <$> Merge.ofValues old new ⟨some since.instant, some finish.instant⟩ := by
  have hsource : (e.information.get "movedFromNomsNumber").isNothing = false := by
    rw [h.source]
    exact hold
  obtain ⟨fields, hfields⟩ := Json.exists_fields_of_get hsource
  have hstart : timestamp? "bookingStartDateTime" (e.information.get "bookingStartDateTime") =
      .ok (some since.instant) := by
    rw [htime.start]
    exact timestamp?_text htime.inside.1
  have hfinish : timestamp? "occurredAt" e.occurredAt = .ok (some finish.instant) := by
    rw [htime.occurred]
    exact timestamp?_text htime.inside.2
  apply apply_of_tellsMove hold hnew h
  rw [bookingWindow_of_since hfields now hstart, hfinish]
  rfl

end Named

/-- An event that tells of a merge, or of a moved booking without a start, does what the merge without
bounds does. A moved booking with a start does what the merge between the two moments does, so it does
not matter how these are written. Any other event does nothing. -/
theorem entry_points_agree (hold : old.isNothing = false) (hnew : new.isNothing = false) :
    (∀ (e : PrisonerEvent) now, e.TellsMerge old new →
      e.apply now = some <$> Merge.ofValues old new {}) ∧
    (∀ (e : PrisonerEvent) now, e.TellsMove old new →
      e.information.get "bookingStartDateTime" = .null →
      e.apply now = some <$> Merge.ofValues old new {}) ∧
    (∀ (e : PrisonerEvent) now since finish, e.TellsMove old new → e.TellsTime since finish →
      e.apply now = some <$> Merge.ofValues old new ⟨some since.instant, some finish.instant⟩) ∧
    (∀ (e e' : PrisonerEvent) now now' since since' finish finish', e.TellsMove old new →
      e.TellsTime since finish → e'.TellsMove old new → e'.TellsTime since' finish' →
      since.instant = since'.instant → finish.instant = finish'.instant →
      e.apply now = e'.apply now') ∧
    ∀ (e : PrisonerEvent) now, e.kind ≠ mergedKind → e.kind ≠ bookingMovedKind →
      e.apply now = pure none := by
  refine ⟨?_, ?_, ?_, ?_, ?_⟩
  · intro e now h
    exact apply_of_tellsMerge hold hnew now h
  · intro e now h hstart
    exact apply_of_no_start hold hnew now h hstart
  · intro e now since finish h htime
    exact apply_of_tellsTime hold hnew now h htime
  · intro e e' now now' since since' finish finish' h htime h' htime' hsince hfinish
    calc e.apply now
        = some <$> Merge.ofValues old new ⟨some since.instant, some finish.instant⟩ :=
          apply_of_tellsTime hold hnew now h htime
      _ = some <$> Merge.ofValues old new ⟨some since'.instant, some finish'.instant⟩ := by
          rw [hsince, hfinish]
      _ = e'.apply now' := (apply_of_tellsTime hold hnew now' h' htime').symm
  · intro e now hmerged hmoved
    exact apply_of_other hmerged hmoved

/-- A booking that moved in the new year an hour ahead of UTC, and once more in the old year of UTC. -/
theorem entry_points_agree_new_year :
    let old : Json := .str "A1"
    let new : Json := .str "D4"
    let moved (start occurred : String) : PrisonerEvent :=
      ⟨bookingMovedKind, .obj [("movedFromNomsNumber", old), ("movedToNomsNumber", new),
        ("bookingStartDateTime", .str start)], .str occurred⟩
    let ahead := moved "2024-01-01T00:30:00+01:00" "2024-03-01T00:00:00Z"
    let plain := moved "2023-12-31T23:30:00" "2024-02-29T22:15:00.000000-01:45"
    old.isNothing = false ∧ new.isNothing = false ∧
      ∃ since finish : Stamp, ahead.TellsMove old new ∧ ahead.TellsTime since finish ∧
        ahead.apply Moment.earliest =
          some <$> Merge.ofValues old new ⟨some since.instant, some finish.instant⟩ ∧
        plain.apply Moment.earliest = ahead.apply Moment.earliest := by
  intro old new moved ahead plain
  let since : Stamp := ⟨2024, 1, 1, 0, 30, 0, none, some (.ahead 1 0), by decide, by decide, by decide⟩
  let finish : Stamp := ⟨2024, 3, 1, 0, 0, 0, none, some .utc, by decide, by decide, by decide⟩
  let since' : Stamp := ⟨2023, 12, 31, 23, 30, 0, none, none, by decide, by decide, by decide⟩
  let finish' : Stamp :=
    ⟨2024, 2, 29, 22, 15, 0, some 0, some (.behind 1 45), by decide, by decide, by decide⟩
  have hahead : ahead.TellsMove old new := ⟨rfl, rfl, rfl⟩
  have hplain : plain.TellsMove old new := ⟨rfl, rfl, rfl⟩
  have htexts : "2024-01-01T00:30:00+01:00" = since.text ∧ "2024-03-01T00:00:00Z" = finish.text := by
    decide
  have htexts' : "2023-12-31T23:30:00" = since'.text ∧
      "2024-02-29T22:15:00.000000-01:45" = finish'.text := by decide
  have hsince : since.instant = since'.instant := by decide
  have hfinish : finish.instant = finish'.instant := by decide
  have htime : ahead.TellsTime since finish :=
    ⟨congrArg _ htexts.1, congrArg _ htexts.2, ⟨by decide, by decide⟩, by decide, by decide⟩
  have htime' : plain.TellsTime since' finish' :=
    ⟨congrArg _ htexts'.1, congrArg _ htexts'.2, hsince ▸ htime.inside.1, hfinish ▸ htime.inside.2⟩
  have hold : old.isNothing = false := rfl
  have hnew : new.isNothing = false := rfl
  obtain ⟨-, -, hbetween, hnotation, -⟩ := entry_points_agree hold hnew
  refine ⟨hold, hnew, since, finish, hahead, htime, ?_, ?_⟩
  · exact hbetween ahead _ _ _ hahead htime
  · exact hnotation plain ahead _ _ _ _ _ _ hplain htime' hahead htime hsince.symm hfinish.symm

end PrisonerEvent

end KeepApart
