import KeepApart.Proofs.Atomicity
import KeepApart.Proofs.Carried

/-!
# Records are not dated ahead of the clock

Dates that a legacy request brings along are cut off at the day on which it is judged, and that day
starts before the clock was read. As long as the clock never goes back, no record is created after it
was updated, and none is updated or closed after the last reading.
-/

namespace KeepApart

open KeepApart.Register

/-! ## Days and moments -/

theorem Moment.le_refl (t : Moment) : t ≤ t := Int.le_refl t.micros

theorem Moment.le_trans {a b c : Moment} (hab : a ≤ b) (hbc : b ≤ c) : a ≤ c :=
  Int.le_trans (b := b.micros) hab hbc

theorem Date.notAfter_le (day : Option Date) (today : Date) : Date.notAfter day today ≤ today := by
  cases day with
  | none => exact Int.le_refl today.days
  | some d =>
      dsimp only [Date.notAfter]
      by_cases h : today < d
      · rw [if_pos h]
        exact Int.le_refl today.days
      · rw [if_neg h]
        exact Int.not_lt.1 h

theorem Moment.ofDate_le {day : Date} {now : Moment} (h : day ≤ now.date) : .ofDate day ≤ now := by
  have hpos : 0 < Moment.microsPerDay := by decide
  have hdays : day.days ≤ now.micros / Moment.microsPerDay := h
  have hmicros : day.days * Moment.microsPerDay ≤ now.micros :=
    (Int.le_ediv_iff_mul_le hpos).1 hdays
  exact hmicros

/-! ## The clock -/

def Edit.readings : Edit → List Moment
  | create ctx _ _ | amend ctx _ _ _ | close ctx _ _ _ _ _ | reopen ctx _ _ _ _ _ => [ctx.now]
  | upsert judged updated _ q => if q.id.isSome then [judged, updated] else [judged]
  | migrate now _ _ => [now]

/-- A merge does not look at the clock. -/
def Step.readings : Step → List Moment
  | edit c => c.readings
  | merge _ _ _ => []

/-- The edit takes the time of a closure or a reopening from the clock. -/
def Edit.IsOnClock : Edit → Prop
  | close _ _ _ _ _ at? | reopen _ _ _ _ _ at? => at? = none
  | _ => True

structure Record.IsDatedBy (latest : Moment) (r : Record) : Prop where
  created : r.whenCreated ≤ r.whenUpdated
  updated : r.whenUpdated ≤ latest
  closed : ∀ t ∈ r.closedAt, t ≤ latest

theorem Record.IsDatedBy.mono {t latest : Moment} {r : Record} (hr : r.IsDatedBy t)
    (h : t ≤ latest) : r.IsDatedBy latest :=
  ⟨hr.created, Moment.le_trans hr.updated h, fun _ ht => Moment.le_trans (hr.closed _ ht) h⟩

namespace LegacyRequest

variable {q : LegacyRequest} {defaults : SyncDefaults} {noComment : Json} {today : Date} {d : Draft}

/-- A draft is created and updated at the start of a day that is not after today, and so is its
closure. -/
theorem dates_of_draft (h : q.draft defaults noComment today = .ok d) :
    d.whenUpdated = d.whenCreated ∧ (∃ day ≤ today, d.whenCreated = .ofDate day) ∧
      ∀ t ∈ d.closedAt, ∃ day ≤ today, t = .ofDate day := by
  obtain ⟨-, first, second, kind, -, rfl⟩ := eq_of_draft h
  refine ⟨rfl, ⟨_, Date.notAfter_le _ _, rfl⟩, ?_⟩
  intro t ht
  simp only [drafted] at ht
  split at ht
  · obtain rfl := Option.some.inj ht
    exact ⟨_, Date.notAfter_le _ _, rfl⟩
  · cases ht

variable {now : Moment} {r : Record}

theorem isDatedBy_of_draft {a : Json} (h : q.draft defaults noComment now.date = .ok d)
    (hr : { d with authorisedBy := a }.HeldAs r) : r.IsDatedBy now := by
  obtain ⟨hupdated, ⟨day, hday, hcreated⟩, hclosed⟩ := dates_of_draft h
  have hsame : r.whenUpdated = r.whenCreated := hr.updated.trans (hupdated.trans hr.created.symm)
  have hstart : r.whenCreated = .ofDate day := hr.created.trans hcreated
  constructor
  · rw [hsame]
    exact Moment.le_refl _
  · rw [hsame, hstart]
    exact Moment.ofDate_le hday
  · intro t ht
    rw [hr.closedAt] at ht
    obtain ⟨day, hday, rfl⟩ := hclosed t ht
    exact Moment.ofDate_le hday

/-- A restated record keeps its time of creation, which was not after the clock, and is updated at the
second reading. -/
theorem isDatedBy_of_restated {e : Record} {updated : Moment}
    (h : q.draft defaults noComment now.date = .ok d)
    (hr : (restated e d defaults updated).HeldAs r) (he : e.whenCreated ≤ updated)
    (hnow : now ≤ updated) : r.IsDatedBy updated := by
  obtain ⟨-, -, hclosed⟩ := dates_of_draft h
  have hcreated : r.whenCreated = e.whenCreated := hr.created
  have hupdated : r.whenUpdated = updated := hr.updated
  have hclosedAt : r.closedAt = d.closedAt := hr.closedAt
  constructor
  · rw [hcreated, hupdated]
    exact he
  · rw [hupdated]
    exact Moment.le_refl _
  · intro t ht
    rw [hclosedAt] at ht
    obtain ⟨day, hday, rfl⟩ := hclosed t ht
    exact Moment.le_trans (Moment.ofDate_le hday) hnow

end LegacyRequest

/-! ## One edit -/

/-- An edit whose readings do not go back makes a record dated by the last one, when all stored records
are dated by a moment before the readings. -/
theorem Edit.isDatedBy_of_makes {c : Edit} {g : Register} {r : Record} (hc : c.IsOnClock)
    (hg : g.IsTable) (hordered : c.readings.Pairwise (· ≤ ·))
    (hbefore : ∀ e ∈ g.records, ∃ t, e.IsDatedBy t ∧ ∀ now ∈ c.readings, t ≤ now)
    (hr : c.Makes g r) : ∃ now ∈ c.readings.getLast?, r.IsDatedBy now := by
  have hstored {id : Int} {e : Record} (he : g.find? id = some e) {now : Moment}
      (hnow : now ∈ c.readings) : e.IsDatedBy now := by
    obtain ⟨t, ht, hle⟩ := hbefore e (hg.find?_eq_some_iff.1 he).1
    exact ht.mono (hle now hnow)
  cases hr with
  | create _ _ _ _ made =>
      obtain ⟨_, _, _, _, rfl⟩ := Proposal.eq_of_record made
      exact ⟨_, rfl, Moment.le_refl _, Moment.le_refl _, nofun⟩
  | @amend ctx _ _ _ _ e _ _ stored made =>
      obtain rfl := Record.eq_of_amend made
      have he : e.IsDatedBy ctx.now := hstored stored (.head _)
      have hcreated : e.whenCreated ≤ ctx.now := Moment.le_trans he.created he.updated
      exact ⟨_, rfl, hcreated, Moment.le_refl _, he.closed⟩
  | @close ctx _ _ _ _ at? _ e _ _ stored _ made =>
      obtain rfl : at? = none := hc
      obtain ⟨_, _, _, ⟨-, -, hat⟩, rfl⟩ := Record.eq_of_close made
      obtain rfl := Option.some.inj hat
      have he : e.IsDatedBy ctx.now := hstored stored (.head _)
      have hcreated : e.whenCreated ≤ ctx.now := Moment.le_trans he.created he.updated
      refine ⟨_, rfl, hcreated, Moment.le_refl _, ?_⟩
      rintro _ ⟨⟩
      exact Moment.le_refl _
  | @reopen ctx _ _ _ _ at? _ e _ _ stored _ _ made =>
      obtain rfl : at? = none := hc
      obtain rfl := Record.eq_of_reopen made
      have he : e.IsDatedBy ctx.now := hstored stored (.head _)
      have hcreated : e.whenCreated ≤ ctx.now := Moment.le_trans he.created he.updated
      exact ⟨_, rfl, hcreated, Moment.le_refl _, nofun⟩
  | @insert judged updated defaults q _ _ new drafted _ held =>
      have hreadings : (upsert judged updated defaults q).readings = [judged] := by
        rw [readings, new]
        rfl
      rw [hreadings]
      exact ⟨judged, rfl, LegacyRequest.isDatedBy_of_draft drafted held⟩
  | @overwrite judged updated defaults q _ _ e _ named stored drafted _ held =>
      have hreadings : (upsert judged updated defaults q).readings = [judged, updated] := by
        rw [readings, named]
        rfl
      rw [hreadings] at hstored hordered ⊢
      -- The closure is judged at the first reading, and the update takes the second one.
      have hnow : judged ≤ updated := List.rel_of_pairwise_cons hordered (.head _)
      have he : e.IsDatedBy updated := hstored stored (.tail _ (.head _))
      have hcreated : e.whenCreated ≤ updated := Moment.le_trans he.created he.updated
      exact ⟨updated, rfl, LegacyRequest.isDatedBy_of_restated drafted held hcreated hnow⟩
  | migrate drafted _ held => exact ⟨_, rfl, LegacyRequest.isDatedBy_of_draft drafted held⟩

theorem Edit.readings_ne_nil (c : Edit) : c.readings ≠ [] := by
  cases c with
  | upsert judged updated defaults q =>
      rw [readings]
      split <;> exact List.cons_ne_nil _ _
  | _ => exact List.cons_ne_nil _ _

/-! ## Histories -/

theorem Record.ignoresId_isDatedBy (latest : Moment) : Record.IgnoresId (·.IsDatedBy latest) :=
  fun _ _ hr => ⟨hr.created, hr.updated, hr.closed⟩

/-- When the clock never goes back and all closures and reopenings happen at its time, no stored record
was created after its last update, and nothing on it is later than the last reading of the clock. -/
theorem records_not_ahead_of_clock (steps : List Step)
    (hclock : ∀ c, .edit c ∈ steps → c.IsOnClock)
    (hordered : (steps.flatMap Step.readings).Pairwise (· ≤ ·)) :
    ∀ r ∈ (reached steps).records,
      ∃ latest ∈ (steps.flatMap Step.readings).getLast?, r.IsDatedBy latest := by
  induction steps using List.reverseRecOn with
  | nil => exact List.forall_mem_nil _
  | append_singleton steps step ih =>
      have hsound : (reached steps).IsSound := (reached_apart steps).1
      rw [List.flatMap_append, List.flatMap_singleton] at hordered ⊢
      obtain ⟨hbefore, hnext, hacross⟩ := List.pairwise_append.1 hordered
      have hall := ih (fun c hc => hclock c (List.mem_append_left _ hc)) hbefore
      rw [reached_concat]
      cases step with
      | merge old new w =>
          -- A merge takes no reading, and it leaves all times as they are.
          have hnone : (Step.merge old new w).readings = [] := rfl
          rw [hnone, List.append_nil]
          refine all_after_merge hsound ?_ hall
          rintro r ⟨latest, hlatest, hr⟩
          exact ⟨latest, hlatest, hr.created, hr.updated, hr.closed⟩
      | edit c =>
          have hreadings : (Step.edit c).readings = c.readings := rfl
          rw [hreadings] at hnext hacross ⊢
          -- An edit takes at least one reading, so the last one of all is its own.
          rw [List.getLast?_append_of_ne_nil _ c.readings_ne_nil]
          have hlast := List.getLast?_eq_some_getLast c.readings_ne_nil
          generalize c.readings.getLast c.readings_ne_nil = latest at hlast
          have hearlier : ∀ e ∈ (reached steps).records,
              ∃ t, e.IsDatedBy t ∧ ∀ now ∈ c.readings, t ≤ now := by
            intro e he
            obtain ⟨t, ht, hdated⟩ := hall e he
            exact ⟨t, hdated, fun now hnow => hacross t (List.mem_of_getLast? ht) now hnow⟩
          have hdated : ∀ r ∈ ((reached steps).after (.edit c)).records, r.IsDatedBy latest := by
            refine all_after_edit (Record.ignoresId_isDatedBy latest) hsound.table ?_ ?_
            · intro e he
              obtain ⟨t, ht, hle⟩ := hearlier e he
              exact ht.mono (hle latest (List.mem_of_getLast? hlast))
            · intro r hr
              have hc : c.IsOnClock := hclock c (List.mem_append_right _ (.head _))
              obtain ⟨now, hnow, hr⟩ :=
                Edit.isDatedBy_of_makes hc hsound.table hnext hearlier hr
              obtain rfl : latest = now := Option.some.inj (hlast.symm.trans hnow)
              exact hr
          exact fun r hr => ⟨latest, hlast, hdated r hr⟩

/-- A request that starts in ten days makes a record that is created and closed today. Two days later
its closure moves to a day before its creation. -/
theorem records_not_ahead_of_clock_restated :
    ∃ (steps : List Step) (r : Record) (latest : Moment),
      (∀ c, .edit c ∈ steps → c.IsOnClock) ∧
        (steps.flatMap Step.readings).Pairwise (· ≤ ·) ∧ (reached steps).records = [r] ∧
        r.whenCreated = .ofDate ⟨10⟩ ∧ r.closedAt = some (.ofDate ⟨3⟩) ∧
        latest = ⟨12 * Moment.microsPerDay + 6⟩ ∧ r.IsDatedBy latest := by
  let q : LegacyRequest := { LegacyRequest.plain "A1" "B2" none with effective := ⟨20⟩ }
  let steps : List Step := [
    .edit (.migrate ⟨10 * Moment.microsPerDay + 1⟩ {} q),
    .edit (.upsert ⟨12 * Moment.microsPerDay + 5⟩ ⟨12 * Moment.microsPerDay + 6⟩ {}
      { q with id := some 1, expiry := some ⟨3⟩ })]
  have hclock : ∀ c, .edit c ∈ steps → c.IsOnClock := by
    intro c hc
    simp only [steps, List.mem_cons, Step.edit.injEq, List.not_mem_nil, or_false] at hc
    rcases hc with rfl | rfl <;> trivial
  have hordered : (steps.flatMap Step.readings).Pairwise (· ≤ ·) := by decide
  let r : Record :=
    { id := some 1
      firstNumber := "A1"
      firstRole := .victim
      secondNumber := "B2"
      secondRole := .perpetrator
      reason := .other
      restriction := .cell
      comment := "No comment provided"
      authorisedBy := none
      whenCreated := .ofDate ⟨10⟩
      whenUpdated := ⟨12 * Moment.microsPerDay + 6⟩
      updatedBy := "NON_ASSOCIATIONS_API"
      isClosed := true
      closedBy := some "NON_ASSOCIATIONS_API"
      closedReason := some "No closure reason provided"
      closedAt := some (.ofDate ⟨3⟩) }
  have hstored : (reached steps).records = [r] := by decide +kernel
  have hr : r ∈ (reached steps).records := by
    rw [hstored]
    exact .head _
  obtain ⟨latest, hlatest, hdated⟩ := records_not_ahead_of_clock steps hclock hordered r hr
  obtain rfl := Option.some.inj hlatest
  exact ⟨steps, r, _, hclock, hordered, hstored, rfl, rfl, rfl, hdated⟩

end KeepApart
