import KeepApart.Legacy.View
import KeepApart.Proofs.Atomicity
import KeepApart.Proofs.Query

/-!
# Requests in the legacy view

A legacy request that becomes a new record comes back in the legacy view of both its prisoners. What is
lost on the way can be told from the request: some restrictions widen, a shared reason spreads to both
sides, and dates in the future become today.
-/

namespace KeepApart

open KeepApart.Action Register

/-! ## Codes -/

namespace LegacyReason

/-- Rivalry and bullying are always shared. -/
def IsShared (reason : LegacyReason) : Prop := reason = .rival ∨ reason = .bullying

instance (reason : LegacyReason) : Decidable reason.IsShared :=
  inferInstanceAs (Decidable (reason = .rival ∨ reason = .bullying))

/-- Two reasons stay as they are when they are equal or neither is shared. Otherwise the second one
counts for both, or the first one when only that is shared. -/
def settled (first second : LegacyReason) : LegacyReason × LegacyReason :=
  if first = second ∨ ¬ first.IsShared ∧ ¬ second.IsShared then (first, second)
  else if second.IsShared then (second, second) else (first, first)

theorem legacyPair_pairReason (first second : LegacyReason) :
    (first.pairReason second).legacyPair first.role second.role = first.settled second := by
  cases first <;> cases second <;> rfl

end LegacyReason

theorem LegacyRestriction.legacy_modern (kind : LegacyRestriction) :
    kind.modern.legacy = if kind = .exercise ∨ kind = .total then .wing else kind := by
  cases kind <;> rfl

theorem Date.notAfter_some (day today : Date) :
    Date.notAfter (some day) today = ⟨min day.days today.days⟩ := by
  have hlt : today < day ↔ today.days < day.days := Iff.rfl
  dsimp only [Date.notAfter]
  by_cases h : today < day
  · have hmin : min day.days today.days = today.days := by
      rw [hlt] at h
      omega
    rw [if_pos h, hmin]
  · have hmin : min day.days today.days = day.days := by
      rw [hlt] at h
      omega
    rw [if_neg h, hmin]

theorem Date.notAfter_eq_elim (day : Option Date) (today : Date) :
    Date.notAfter day today = day.elim today fun d => ⟨min d.days today.days⟩ := by
  cases day with
  | none => rfl
  | some d => exact Date.notAfter_some d today

/-! ## What is stored -/

structure LegacyRequest.Translated (q : LegacyRequest) (today : Date) (first second : LegacyReason)
    (kind : LegacyRestriction) (r : Record) : Prop where
  codes : q.HasCodes first second kind
  differ : q.firstNumber ≠ q.secondNumber
  pair : r.pair = (q.firstNumber, q.secondNumber)
  roles : r.firstRole = first.role ∧ r.secondRole = second.role
  reason : r.reason = first.pairReason second
  restriction : r.restriction = kind.modern
  created : r.whenCreated = .ofDate (Date.notAfter (some q.effective) today)
  current : q.InForce today → r.closedAt = none
  expired : ¬ q.InForce today → r.closedAt = some (.ofDate (Date.notAfter q.expiry today))

theorem LegacyRequest.exists_translated {q : LegacyRequest} {defaults : SyncDefaults}
    {noComment authorisedBy : Json} {today : Date} {d : Draft} {r : Record}
    (hd : q.draft defaults noComment today = .ok d)
    (hr : { d with authorisedBy := authorisedBy }.HeldAs r) :
    ∃ first second kind, q.Translated today first second kind r := by
  have hforce := isClosed_eq_false_iff hd
  obtain ⟨hdiffer, first, second, kind, hcodes, rfl⟩ := eq_of_draft hd
  have hclosedAt := hr.closedAt
  simp only [drafted] at hforce hclosedAt
  refine ⟨first, second, kind, hcodes, hdiffer, hr.pair rfl rfl, hr.roles, hr.reason,
    hr.restriction, hr.created, ?_, ?_⟩
  · intro h
    rw [hclosedAt, hforce.2 h]
    rfl
  · intro h
    have hclosed := mt hforce.1 h
    rw [Bool.not_eq_false] at hclosed
    rw [hclosedAt, hclosed]
    rfl

inductive LegacyRequest.Inserts (q : LegacyRequest) (defaults : SyncDefaults) :
    Date → Session → Saved → Session → Prop where
  | upsert {today : Date} {now : Moment} {s t : Session} {v : Saved} (new : q.id = none)
      (done : (Sync.upsertOn today now defaults q).run s = .ok v t) : Inserts q defaults today s v t
  | migrate {now : Moment} {s t : Session} {v : Saved}
      (done : (Sync.migrate now defaults q).run s = .ok v t) : Inserts q defaults now.date s v t

theorem LegacyRequest.Inserts.stored {q : LegacyRequest} {defaults : SyncDefaults} {today : Date}
    {s t : Session} {v : Saved} (hs : s.working.IsTable) (h : q.Inserts defaults today s v t) :
    t.working.IsTable ∧ v.record ∈ t.working.records ∧
      ∃ first second kind, q.Translated today first second kind v.record := by
  have hnew {noComment authorisedBy : Json} {d : Draft} {r : Record}
      (hd : q.draft defaults noComment today = .ok d)
      (hr : { d with authorisedBy := authorisedBy }.HeldAs r)
      (hstores : s.working.Stores r v.record t.working) :
      t.working.IsTable ∧ v.record ∈ t.working.records ∧
        ∃ first second kind, q.Translated today first second kind v.record := by
    obtain ⟨first, second, kind, ht⟩ := exists_translated hd hr
    refine ⟨hstores.update.table, (hstores.update.mem_iff _).2 (.inl rfl), first, second, kind, ?_⟩
    rcases hstores.origin with ⟨-, hv⟩ | ⟨hv, -⟩
    · -- The id is new, and the rest of the record is as it was translated.
      rw [hv]
      exact { ht with }
    · rw [hv]
      exact ht
  cases h with
  | upsert new done =>
      obtain ⟨d, r, hd, -, hr, hstores⟩ := Sync.stores_of_upsert_new hs new done
      exact hnew hd hr hstores
  | migrate done =>
      obtain ⟨d, r, hd, -, hr, hstores⟩ := Sync.stores_of_migrate hs done
      exact hnew hd hr hstores

/-! ## What is shown -/

namespace Legacy

variable {s : Session} {ctx : Context} {d : Directory} {number : String} {r : Record}

/-- The legacy view of the prisoner, open and closed records in all prisons, has one item under this
id, and it is this one. -/
def ShowsOnce (ctx : Context) (s : Session) (number : String) (id : Option Int) (item : LegacyItem) :
    Prop :=
  ∃ view t, (Legacy.view ctx number false false).run s = .ok view t ∧
    view.items.filter (fun i => i.id = id) = [item]

/-- A stored record is shown once in the view of a prisoner on it, beside the prisoner opposite. -/
theorem exists_showsOnce (hs : s.isBroken = false) (hg : s.working.IsTable)
    (hctx : ctx.directory = some d) (hd : d.Knows (Query.IsBeside s.working number))
    (hr : r ∈ s.working.records) (hinvolves : r.involves number = true) :
    ∃ p, ShowsOnce ctx s number r.id (item number ⟨r, p⟩) := by
  let o : ListOptions := { wantOpen := true, wantClosed := !false, otherPrisons := !false }
  obtain ⟨listing, t, hrun, hperm⟩ :=
    Query.exists_run_forPrisoner (o := o) hs hctx hd rfl rfl
  have hall : (s.working.involving number).filter o.keeps = s.working.involving number :=
    List.filter_eq_self.2 fun _ _ => rfl
  rw [hall] at hperm
  have hmem : r ∈ listing.entries.map (·.record) :=
    hperm.mem_iff.2 (List.mem_filter.2 ⟨hr, hinvolves⟩)
  obtain ⟨e, he, rfl⟩ := List.mem_map.1 hmem
  -- The items are in another order than the records, so only their ids tell which one is meant.
  have hids : ((listing.entries.map (item number)).map (·.id)).Nodup := by
    have hnodup : ((s.working.involving number).map (·.id)).Nodup :=
      hg.nodup_ids.sublist (List.filter_sublist.map _)
    have hlisted := (hperm.map (·.id)).nodup_iff.2 hnodup
    rw [List.map_map] at hlisted ⊢
    exact hlisted
  refine ⟨e.prisoner, _, t, bind_eq_ok.2 ⟨listing, t, hrun, rfl⟩, ?_⟩
  exact filter_eq_singleton hids (List.mem_map_of_mem he)

end Legacy

structure LegacyRequest.IsShownAs (q : LegacyRequest) (today : Date) (i : LegacyItem) : Prop where
  codes : ∃ first second kind, q.HasCodes first second kind ∧
    (i.reason, i.counterpart.reason) = first.settled second ∧
      i.restriction = if kind = .exercise ∨ kind = .total then .wing else kind
  effective : i.effective = .ofDate ⟨min q.effective.days today.days⟩
  current : q.InForce today → i.expiry = none
  expired : ¬ q.InForce today →
    i.expiry = some (.ofDate (q.expiry.elim today fun e => ⟨min e.days today.days⟩))

structure LegacyItem.Mirrors (i j : LegacyItem) : Prop where
  id : i.id = j.id
  reasons : i.reason = j.counterpart.reason ∧ i.counterpart.reason = j.reason
  restriction : i.restriction = j.restriction
  effective : i.effective = j.effective
  expiry : i.expiry = j.expiry
  authorisedBy : i.authorisedBy = j.authorisedBy
  comment : i.comment = j.comment

theorem LegacyItem.Mirrors.symm {i j : LegacyItem} (h : i.Mirrors j) : j.Mirrors i :=
  ⟨h.id.symm, ⟨h.reasons.2.symm, h.reasons.1.symm⟩, h.restriction.symm, h.effective.symm,
    h.expiry.symm, h.authorisedBy.symm, h.comment.symm⟩

namespace Legacy

variable {r : Record}

theorem reasons_first (r : Record) :
    reasons r.firstNumber r = r.reason.legacyPair r.firstRole r.secondRole := if_pos rfl

theorem reasons_second (h : r.firstNumber ≠ r.secondNumber) :
    reasons r.secondNumber r = (r.reason.legacyPair r.firstRole r.secondRole).swap := if_neg h

theorem item_mirrors (h : r.firstNumber ≠ r.secondNumber) (p q : Prisoner) :
    (item r.firstNumber ⟨r, p⟩).Mirrors (item r.secondNumber ⟨r, q⟩) := by
  have hreasons : reasons r.secondNumber r = (reasons r.firstNumber r).swap := by
    rw [reasons_first, reasons_second h]
  obtain ⟨hother, hown⟩ := Prod.mk.inj hreasons
  exact ⟨rfl, ⟨hown.symm, hother.symm⟩, rfl, rfl, rfl, rfl, rfl⟩

end Legacy

namespace LegacyRequest.Translated

variable {q : LegacyRequest} {today : Date} {first second : LegacyReason} {kind : LegacyRestriction}
variable {r : Record}

theorem reasons (h : q.Translated today first second kind r) :
    Legacy.reasons q.firstNumber r = first.settled second := by
  have hfirst : q.firstNumber = r.firstNumber := (Prod.mk.inj h.pair).1.symm
  rw [hfirst, Legacy.reasons_first, h.reason, h.roles.1, h.roles.2,
    LegacyReason.legacyPair_pairReason]

theorem isShownAs (h : q.Translated today first second kind r) (p : Prisoner) :
    q.IsShownAs today (Legacy.item q.firstNumber ⟨r, p⟩) := by
  refine ⟨⟨first, second, kind, h.codes, h.reasons, ?_⟩, ?_, h.current, ?_⟩
  · rw [← LegacyRestriction.legacy_modern, ← h.restriction]
    rfl
  · rw [← Date.notAfter_some, ← h.created]
    rfl
  · intro hexpired
    rw [← Date.notAfter_eq_elim, ← h.expired hexpired]
    rfl

theorem mirrors (h : q.Translated today first second kind r) (p p' : Prisoner) :
    (Legacy.item q.secondNumber ⟨r, p'⟩).Mirrors (Legacy.item q.firstNumber ⟨r, p⟩) := by
  obtain ⟨hfirst, hsecond⟩ := Prod.mk.inj h.pair
  have hdiffer : r.firstNumber ≠ r.secondNumber := by
    rw [hfirst, hsecond]
    exact h.differ
  rw [← hfirst, ← hsecond]
  exact (Legacy.item_mirrors hdiffer p p').symm

end LegacyRequest.Translated

/-- A legacy request that becomes a new record is shown once in the legacy view of its first prisoner,
as what it says on the day of the call, and once in that of its second prisoner, with the reasons
exchanged. The directory has to know everybody on a record of one of the two. -/
theorem legacy_round_trip {q : LegacyRequest} {defaults : SyncDefaults} {today : Date}
    {s t u : Session} {v : Saved} {ctx : Context} {d : Directory} (hs : s.IsReached)
    (hinserts : q.Inserts defaults today s v t) (hu : u.isBroken = false)
    (hworking : u.working = t.working) (hctx : ctx.directory = some d)
    (hd : d.Knows fun n => Query.IsBeside t.working q.firstNumber n ∨
      Query.IsBeside t.working q.secondNumber n) :
    ∃ i j, Legacy.ShowsOnce ctx u q.firstNumber v.record.id i ∧
      Legacy.ShowsOnce ctx u q.secondNumber v.record.id j ∧ q.IsShownAs today i ∧ j.Mirrors i := by
  obtain ⟨hg, hstored, first, second, kind, ht⟩ := hinserts.stored hs.isSound.2.table
  obtain ⟨hfirst, hsecond⟩ := Prod.mk.inj ht.pair
  rw [← hworking] at hg hstored hd
  obtain ⟨p, hp⟩ := Legacy.exists_showsOnce hu hg hctx
    (fun numbers hn => hd numbers fun n h => .inl (hn n h)) hstored
    (Record.involves_iff.2 (.inl hfirst))
  obtain ⟨p', hp'⟩ := Legacy.exists_showsOnce hu hg hctx
    (fun numbers hn => hd numbers fun n h => .inr (hn n h)) hstored
    (Record.involves_iff.2 (.inr hsecond))
  exact ⟨_, _, hp, hp', ht.isShownAs p, ht.mirrors p p'⟩

/-- A total restriction shows as one of the wing, and the rivalry of one side as that of both. -/
theorem legacy_round_trip_rivals :
    ∃ (q : LegacyRequest) (v : Saved) (t : Session) (i j : LegacyItem),
      (Sync.migrate Moment.earliest {} q).run (Session.start (reached [])) = .ok v t ∧
      Legacy.ShowsOnce ⟨Moment.earliest, some .everybody⟩ (Session.start t.working) "A1"
        v.record.id i ∧
      Legacy.ShowsOnce ⟨Moment.earliest, some .everybody⟩ (Session.start t.working) "B2"
        v.record.id j ∧
      i.restriction = .wing ∧ i.reason = .rival ∧ j.reason = .rival := by
  let q : LegacyRequest := { LegacyRequest.plain "A1" "B2" none with
    secondReason := .str "RIV"
    restriction := .str "TOTAL" }
  let c : Context := ⟨Moment.earliest, some .everybody⟩
  have hc : c.directory = some .everybody := rfl
  obtain ⟨v, t, hrun⟩ : ∃ v t, (Sync.migrate Moment.earliest {} q).run
      (Session.start (reached [])) = .ok v t := ⟨_, _, rfl⟩
  obtain ⟨i, j, hi, hj, hshown, hmirrors⟩ := legacy_round_trip (u := Session.start t.working)
    (.start []) (.migrate hrun) rfl rfl hc (Directory.knows_everybody _)
  obtain ⟨first, second, kind, hcodes, hreasons, hrestriction⟩ := hshown.codes
  -- The item is shown with some codes; that they are those of the request is read off it.
  obtain rfl : LegacyReason.victim = first := Except.ok.inj hcodes.readFirst
  obtain rfl : LegacyReason.rival = second := Except.ok.inj hcodes.readSecond
  obtain rfl : LegacyRestriction.total = kind := Except.ok.inj hcodes.readKind
  obtain ⟨hown, hother⟩ := Prod.mk.inj hreasons
  exact ⟨q, v, t, i, j, hrun, hi, hj, hrestriction, hown, hmirrors.reasons.1.trans hother⟩

end KeepApart
