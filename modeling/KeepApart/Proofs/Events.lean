import KeepApart.Proofs.Merge.Failures

/-!
# How events end

An event whose information is an object has an orderly end, whatever values stand in it, but for three
things that trip it. A timestamp can be no text at all, or mean a moment outside of the calendar, and
a prisoner number can be a value that storage cannot hold. These fail as they are, before anything is
changed.
-/

namespace KeepApart

open KeepApart.Action

/-! ## Timestamps -/

def Moment.InCalendar (t : Moment) : Prop := earliest ≤ t ∧ t < limit

namespace Json

inductive Means : Json → Moment → Prop where
  | text {s : String} {t : Moment} (reads : Timestamp.moment? s = some t) : Means (.str s) t
  | codes {codes : List Nat} {t : Moment} (reads : Timestamp.momentOfCodes? codes = some t) :
      Means (.surrogates codes) t

theorem Means.isString {v : Json} {t : Moment} (h : v.Means t) : v.IsString := by
  cases h with
  | text _ => exact .inl ⟨_, rfl⟩
  | codes _ => exact .inr ⟨_, rfl⟩

inductive TripsReader (v : Json) : Fault → Prop where
  | noText (there : v ≠ .null) (noText : ¬ v.IsString) : TripsReader v .wrongShape
  | outside {t : Moment} (means : v.Means t) (outside : ¬ t.InCalendar) : TripsReader v .overflow

end Json

namespace PrisonerEvent

variable {e : PrisonerEvent} {field key : String} {v old new : Json} {f : Fault} {now t : Moment}
variable {g : Register} {s : Session} {w : Window} {fields : List (String × Json)}

theorem inCalendar_inside {cause : Invalid} (ht : t.InCalendar) :
    inCalendar cause (some t) = .ok (some t) := if_pos ht

theorem inCalendar_outside {cause : Invalid} (ht : ¬ t.InCalendar) :
    inCalendar cause (some t) = .error .overflow := if_neg ht

theorem timestamp?_of_string (hv : v.IsString) :
    ∃ (cause : Invalid) (read : Option Moment), (∀ t, v.Means t ↔ read = some t) ∧
      timestamp? field v = inCalendar cause read := by
  rcases hv with ⟨text, rfl⟩ | ⟨codes, rfl⟩
  · refine ⟨.badTimestamp text field, Timestamp.moment? text, fun t => ⟨?_, .text⟩, rfl⟩
    intro h
    cases h with
    | text reads => exact reads
  · refine ⟨.badTimestampCodes codes field, Timestamp.momentOfCodes? codes, fun t => ⟨?_, .codes⟩, rfl⟩
    intro h
    cases h with
    | codes reads => exact reads

theorem timestamp?_of_trips (h : v.TripsReader f) : timestamp? field v = .error f := by
  cases h with
  | noText there noText =>
      cases v with
      | null => exact absurd rfl there
      | str text => exact absurd (.inl ⟨text, rfl⟩) noText
      | surrogates codes => exact absurd (.inr ⟨codes, rfl⟩) noText
      | _ => rfl
  | outside means outside =>
      obtain ⟨_, read, hmeans, heq⟩ := timestamp?_of_string means.isString
      rw [heq, (hmeans _).1 means, inCalendar_outside outside]

theorem timestamp?_of_means (means : v.Means t) (inside : t.InCalendar) :
    timestamp? field v = .ok (some t) := by
  obtain ⟨_, read, hmeans, heq⟩ := timestamp?_of_string means.isString
  rw [heq, (hmeans _).1 means, inCalendar_inside inside]

/-- A timestamp is missing, means a moment of the calendar, is refused or trips the reader. -/
theorem timestamp?_cases (field : String) (v : Json) :
    timestamp? field v = .ok none ∨
      (∃ t, v.Means t ∧ t.InCalendar ∧ timestamp? field v = .ok (some t)) ∨
      (∃ cause, timestamp? field v = .error (.rejected (.invalid cause))) ∨
      ∃ f, v.TripsReader f := by
  by_cases hv : v.IsString
  · obtain ⟨cause, read, hmeans, heq⟩ := timestamp?_of_string hv
    cases read with
    | none => exact .inr (.inr (.inl ⟨cause, heq⟩))
    | some t =>
        have means := (hmeans t).2 rfl
        by_cases ht : t.InCalendar
        · exact .inr (.inl ⟨t, means, ht, timestamp?_of_means means ht⟩)
        · exact .inr (.inr (.inr ⟨.overflow, .outside means ht⟩))
  · by_cases hnull : v = .null
    · rw [hnull]
      exact .inl rfl
    · exact .inr (.inr (.inr ⟨.wrongShape, .noText hnull hv⟩))

/-! ## What an event names -/

/-- The event names two prisoner numbers, neither of them nothing, and the time of the records that it
concerns. -/
inductive Names (e : PrisonerEvent) (now : Moment) (old new : Json) : Window → Prop where
  | merged (kind : e.kind = mergedKind)
      (removed : requireItem e.information "removedNomsNumber" = .ok old)
      (kept : requireItem e.information "nomsNumber" = .ok new) : Names e now old new {}
  | moved {w : Window} (kind : e.kind = bookingMovedKind) (window : e.bookingWindow now = .ok w)
      (source : requireItem e.information "movedFromNomsNumber" = .ok old)
      (goal : requireItem e.information "movedToNomsNumber" = .ok new) : Names e now old new w

/-- The event trips over a timestamp, the start of the booking first, or over a number. -/
inductive Trips (e : PrisonerEvent) (now : Moment) (g : Register) (f : Fault) : Prop where
  | start (kind : e.kind = bookingMovedKind)
      (trips : (e.information.get "bookingStartDateTime").TripsReader f) : Trips e now g f
  | finish {since : Moment} (kind : e.kind = bookingMovedKind)
      (means : (e.information.get "bookingStartDateTime").Means since) (inside : since.InCalendar)
      (trips : e.occurredAt.TripsReader f) : Trips e now g f
  | number {old new : Json} {w : Window} (names : e.Names now old new w)
      (unheld : Merge.Unheld old new w g f) : Trips e now g f

theorem apply_of_merged (hkind : e.kind = mergedKind) : e.apply now =
    Action.attempt (requireItem e.information "removedNomsNumber") >>= fun old =>
      Action.attempt (requireItem e.information "nomsNumber") >>= fun new =>
        Merge.ofValues old new {} >>= fun m => pure (some m) :=
  if_pos (beq_iff_eq.2 hkind)

theorem apply_of_moved (hkind : e.kind = bookingMovedKind) : e.apply now =
    Action.attempt (e.bookingWindow now) >>= fun w =>
      Action.attempt (requireItem e.information "movedFromNomsNumber") >>= fun old =>
        Action.attempt (requireItem e.information "movedToNomsNumber") >>= fun new =>
          Merge.ofValues old new w >>= fun m => pure (some m) := by
  have hother : ¬ (e.kind == mergedKind) = true := by
    rw [hkind]
    decide
  exact (if_neg hother).trans (if_pos (beq_iff_eq.2 hkind))

theorem apply_of_other (hmerged : e.kind ≠ mergedKind) (hmoved : e.kind ≠ bookingMovedKind) :
    e.apply now = pure none :=
  (if_neg (mt beq_iff_eq.1 hmerged)).trans (if_neg (mt beq_iff_eq.1 hmoved))

theorem apply_of_names (h : e.Names now old new w) :
    e.apply now = Merge.ofValues old new w >>= fun m => pure (some m) := by
  cases h with
  | merged kind removed kept =>
      rw [apply_of_merged kind, removed, kept]
      rfl
  | moved kind window source goal =>
      rw [apply_of_moved kind, window, source, goal]
      rfl

theorem apply_of_window_error (hkind : e.kind = bookingMovedKind)
    (h : e.bookingWindow now = .error f) : (e.apply now).run s = .error f s := by
  rw [apply_of_moved hkind, h]
  rfl

/-! ## Events whose information is an object -/

section Fields

variable (hfields : e.information = .obj fields)
include hfields

theorem item_of_fields : item e.information key = .ok (e.information.get key) := by
  rw [hfields]
  cases fields <;> rfl

theorem requireItem_cases (key : String) : (∃ v, requireItem e.information key = .ok v) ∨
    requireItem e.information key = .error (.rejected (.invalid (.eventIncomplete key))) := by
  rw [requireItem, item_of_fields hfields]
  cases hnothing : (e.information.get key).isNothing with
  | true => exact .inr (if_pos hnothing)
  | false => exact .inl ⟨_, if_neg (by simp [hnothing])⟩

theorem bookingWindow_of_start_error
    (h : timestamp? "bookingStartDateTime" (e.information.get "bookingStartDateTime") = .error f) :
    e.bookingWindow now = .error f := by
  rw [bookingWindow, item_of_fields hfields]
  change (timestamp? _ _ >>= _) = _
  rw [h]
  rfl

theorem bookingWindow_of_since (now : Moment) {since : Moment}
    (h : timestamp? "bookingStartDateTime" (e.information.get "bookingStartDateTime") =
      .ok (some since)) : e.bookingWindow now =
        (fun occurred => ⟨some since, some (occurred.getD now)⟩) <$>
          timestamp? "occurredAt" e.occurredAt := by
  rw [bookingWindow, item_of_fields hfields]
  change (timestamp? _ _ >>= _) = _
  rw [h]
  rfl

theorem bookingWindow_of_null
    (h : timestamp? "bookingStartDateTime" (e.information.get "bookingStartDateTime") = .ok none) :
    e.bookingWindow now = .ok {} := by
  rw [bookingWindow, item_of_fields hfields]
  change (timestamp? _ _ >>= _) = _
  rw [h]
  rfl

theorem bookingWindow_cases (now : Moment) (g : Register) (hkind : e.kind = bookingMovedKind) :
    (∃ w, e.bookingWindow now = .ok w) ∨
      (∃ cause, e.bookingWindow now = .error (.rejected (.invalid cause))) ∨
      ∃ f, e.Trips now g f := by
  rcases timestamp?_cases "bookingStartDateTime" (e.information.get "bookingStartDateTime") with
    hstart | ⟨since, means, inside, hstart⟩ | ⟨cause, hstart⟩ | ⟨f, htrips⟩
  · exact .inl ⟨_, bookingWindow_of_null hfields hstart⟩
  · have hwindow := bookingWindow_of_since hfields now hstart
    rcases timestamp?_cases "occurredAt" e.occurredAt with
      hend | ⟨_, -, -, hend⟩ | ⟨cause, hend⟩ | ⟨f, htrips⟩
    · rw [hend] at hwindow
      exact .inl ⟨_, hwindow⟩
    · rw [hend] at hwindow
      exact .inl ⟨_, hwindow⟩
    · rw [hend] at hwindow
      exact .inr (.inl ⟨cause, hwindow⟩)
    · exact .inr (.inr ⟨f, .finish hkind means inside htrips⟩)
  · exact .inr (.inl ⟨cause, bookingWindow_of_start_error hfields hstart⟩)
  · exact .inr (.inr ⟨f, .start hkind htrips⟩)

/-- An event that trips fails as that, and leaves everything as it was. -/
theorem apply_of_trips (hs : s.isBroken = false) (h : e.Trips now s.working f) :
    (e.apply now).run s = .error f s := by
  cases h with
  | start kind trips =>
      exact apply_of_window_error kind
        (bookingWindow_of_start_error hfields (timestamp?_of_trips trips))
  | finish kind means inside trips =>
      refine apply_of_window_error kind ?_
      rw [bookingWindow_of_since hfields now (timestamp?_of_means means inside), timestamp?_of_trips trips]
      rfl
  | number names unheld =>
      rw [apply_of_names names]
      exact bind_eq_error.2 (.inl (Merge.ofValues_of_unheld hs unheld))

end Fields

theorem Trips.ne_rejected (h : e.Trips now g f) (r : Rejection) : f ≠ .rejected r := by
  have hreader {v : Json} (h : v.TripsReader f) : f ≠ .rejected r := by
    cases h <;> exact nofun
  cases h with
  | start _ trips | finish _ _ _ trips => exact hreader trips
  | number _ unheld =>
      obtain ⟨-, hvalue⟩ | ⟨-, -, -, hvalue⟩ := unheld <;>
      rcases Column.fault_of_text hvalue with rfl | rfl | rfl <;> exact nofun

section Ends

variable (hs : s.isBroken = false) (hg : s.working.IsConsistent)
include hs hg

theorem orderly_of_names (h : e.Names now old new w) :
    Orderly s ((e.apply now).run s) ∨ ∃ f, e.Trips now s.working f := by
  rw [apply_of_names h]
  rcases Merge.orderly_or_unheld hs hg with horderly | ⟨f, hunheld⟩
  · exact .inl (horderly.bind_pure some)
  · exact .inr ⟨f, .number h hunheld⟩

theorem orderly_or_trips (hfields : e.information = .obj fields) :
    Orderly s ((e.apply now).run s) ∨ ∃ f, e.Trips now s.working f := by
  by_cases hmerged : e.kind = mergedKind
  · rcases requireItem_cases hfields "removedNomsNumber" with ⟨old, hold⟩ | hold
    · rcases requireItem_cases hfields "nomsNumber" with ⟨new, hnew⟩ | hnew
      · exact orderly_of_names hs hg (.merged hmerged hold hnew)
      · rw [apply_of_merged hmerged, hold, hnew]
        exact .inl (.refused _)
    · rw [apply_of_merged hmerged, hold]
      exact .inl (.refused _)
  by_cases hmoved : e.kind = bookingMovedKind
  · rcases bookingWindow_cases hfields now s.working hmoved with
      ⟨w, hwindow⟩ | ⟨cause, hwindow⟩ | htrips
    · rcases requireItem_cases hfields "movedFromNomsNumber" with ⟨old, hold⟩ | hold
      · rcases requireItem_cases hfields "movedToNomsNumber" with ⟨new, hnew⟩ | hnew
        · exact orderly_of_names hs hg (.moved hmoved hwindow hold hnew)
        · rw [apply_of_moved hmoved, hwindow, hold, hnew]
          exact .inl (.refused _)
      · rw [apply_of_moved hmoved, hwindow, hold]
        exact .inl (.refused _)
    · rw [apply_of_window_error hmoved hwindow]
      exact .inl (.refused cause)
    · exact .inr htrips
  · rw [apply_of_other hmerged hmoved]
    exact .inl (.done none s.working)

end Ends

/-- On any register, an event whose information is an object has an orderly end unless it trips, and an
event that trips fails with no rejection and leaves everything as it was. In a scope of its own an event
that fails in any way leaves the register as it was. -/
theorem orderly_unless_trips (hs : s.isBroken = false) (hg : s.working.IsConsistent)
    (hfields : ∃ fields, e.information = .obj fields) :
    (Orderly s ((e.apply now).run s) ∨ ∃ f, e.Trips now s.working f) ∧
    (∀ f, e.Trips now s.working f → (∀ r, f ≠ .rejected r) ∧ (e.apply now).run s = .error f s) ∧
    ∀ f h, Storage.scope (e.apply now) s.working = (.error f, h) → h = s.working := by
  obtain ⟨fields, hfields⟩ := hfields
  refine ⟨orderly_or_trips hs hg hfields, ?_, ?_⟩
  · intro f htrips
    exact ⟨htrips.ne_rejected, apply_of_trips hfields hs htrips⟩
  · intro f h hscope
    exact eq_of_scope_error hscope

/-- A number in the place of a timestamp trips the event; a truth value in the place of a prisoner
number does not. -/
theorem orderly_unless_trips_couple :
    ∃ (s : Session) (moved merged : PrisonerEvent), s.isBroken = false ∧ s.working.IsConsistent ∧
      moved.information.get "bookingStartDateTime" = .int 5 ∧ moved.occurredAt = .null ∧
      (moved.apply Moment.earliest).run s = .error .wrongShape s ∧
      merged.information.get "nomsNumber" = .bool true ∧
      Orderly s ((merged.apply Moment.earliest).run s) := by
  let s : Session := .start Merge.couple
  let moved : PrisonerEvent := ⟨bookingMovedKind, .obj [("bookingStartDateTime", .int 5),
    ("movedFromNomsNumber", .str "A1"), ("movedToNomsNumber", .str "D4")], .null⟩
  let merged : PrisonerEvent :=
    ⟨mergedKind, .obj [("removedNomsNumber", .str "A1"), ("nomsNumber", .bool true)], .null⟩
  have hg : s.working.IsConsistent := ⟨Merge.isSound_couple.table, Merge.isSound_couple.closures⟩
  have htrips : moved.Trips Moment.earliest s.working .wrongShape := by
    refine .start rfl (.noText nofun ?_)
    rintro (⟨_, ⟨⟩⟩ | ⟨_, ⟨⟩⟩)
  have hfails : (moved.apply Moment.earliest).run s = .error .wrongShape s :=
    ((orderly_unless_trips rfl hg ⟨_, rfl⟩).2.1 _ htrips).2
  obtain ⟨horderly, htripped, -⟩ : (Orderly s ((merged.apply Moment.earliest).run s) ∨ _) ∧ _ ∧ _ :=
    orderly_unless_trips rfl hg ⟨_, rfl⟩
  have hdone : ∃ a t, (merged.apply Moment.earliest).run s = .ok a t := ⟨_, _, rfl⟩
  refine ⟨s, moved, merged, rfl, hg, rfl, rfl, hfails, rfl, horderly.resolve_right ?_⟩
  rintro ⟨f, htrips⟩
  obtain ⟨a, t, hdone⟩ := hdone
  rw [(htripped f htrips).2] at hdone
  cases hdone

end PrisonerEvent

end KeepApart
