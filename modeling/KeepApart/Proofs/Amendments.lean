import Mathlib.Data.List.Chain
import KeepApart.Proofs.Comments
import KeepApart.Proofs.Query
import KeepApart.Proofs.Repository

/-!
# What becomes of amendments

A record that was created goes through amendments, closings and reopenings, while the same happens to
other records and some calls fail. At any time it has in each field the value that was given last by a
call on it that succeeded. Closings and reopenings that succeed alternate.
-/

namespace KeepApart

open KeepApart.Action KeepApart.Register

/-! ## What calls give -/

structure Closing where
  closedBy : Option String
  closedReason : Option String
  closedAt : Option Moment

namespace Record

def standing (r : Record) : Standing := if r.isClosed then .closed else .opened

def closing (r : Record) : Closing := ⟨r.closedBy, r.closedReason, r.closedAt⟩

end Record

def Amendment.nothing : Amendment := ⟨none, none, none, none, none, [], false⟩

namespace Edit

/-- A call to create, amend, close or reopen a record, and no legacy request. -/
def isCommand : Edit → Bool
  | create .. | amend .. | close .. | reopen .. => true
  | upsert .. | migrate .. => false

def target? : Edit → Option Int
  | amend _ id .. | close _ id .. | reopen _ id .. => some id
  | create .. | upsert .. | migrate .. => none

/-- The roles, the reason, the restriction and the comment that the call gives. A reopening gives its
reason as the comment. -/
def gives : Edit → Amendment
  | create _ p _ => { Amendment.nothing with
      firstRole := (Vocabulary.read Role p.firstRole).toOption
      secondRole := (Vocabulary.read Role p.secondRole).toOption
      reason := (Vocabulary.read Reason p.reason).toOption
      restriction := (Vocabulary.read Restriction p.restriction).toOption
      comment := some p.comment }
  | amend _ _ _ a => a
  | reopen _ _ reason _ _ _ => { Amendment.nothing with comment := reason }
  | close .. | upsert .. | migrate .. => .nothing

/-- How the call leaves a record, if it opens or closes one. -/
def standing? : Edit → Option Standing
  | create .. | reopen .. => some .opened
  | close .. => some .closed
  | amend .. | upsert .. | migrate .. => none

def closing? : Edit → Option Closing
  | close ctx _ reason actor closer at? =>
    some ⟨given? closer <|> actor, reason, some (at?.getD ctx.now)⟩
  | _ => none

def author? : Edit → Option String
  | create _ _ actor | amend _ _ actor _ => actor
  | close _ _ _ actor other _ | reopen _ _ _ actor other _ => given? other <|> actor
  | upsert .. | migrate .. => none

def moment? : Edit → Option Moment
  | create ctx _ _ | amend ctx .. => some ctx.now
  | close ctx _ _ _ _ at? | reopen ctx _ _ _ _ at? => some (at?.getD ctx.now)
  | upsert .. | migrate .. => none

end Edit

/-- What the last of these calls gave that gave anything. -/
def latest {α : Type} (given : Edit → Option α) (log : List Edit) : Option α :=
  (log.filterMap given).getLast?

/-- The record has in each field what these calls gave last, and was closed and reopened by turns. -/
structure Record.Reflects (r : Record) (log : List Edit) : Prop where
  firstRole : latest (·.gives.firstRole) log = some r.firstRole
  secondRole : latest (·.gives.secondRole) log = some r.secondRole
  reason : latest (·.gives.reason) log = some r.reason
  restriction : latest (·.gives.restriction) log = some r.restriction
  comment : latest (·.gives.comment) log = some r.comment
  author : ∃ c, log.getLast? = some c ∧ c.author? = some r.updatedBy ∧ c.moment? = some r.whenUpdated
  standing : latest Edit.standing? log = some r.standing
  closing : r.isClosed = true → latest Edit.closing? log = some r.closing
  turns : (log.filterMap Edit.standing?).IsChain (· ≠ ·)

variable {c : Edit} {e r v : Record} {g h : Register} {log : List Edit} {id : Int}

/-! ## One call -/

theorem latest_concat {α : Type} (given : Edit → Option α) (log : List Edit) (c : Edit) :
    latest given (log ++ [c]) = (given c).or (latest given log) := by
  cases hc : given c with
  | none => simp [latest, hc]
  | some x => simp [latest, hc]

theorem latest_concat_eq_some {α : Type} {given : Edit → Option α} {x y : α}
    (h : latest given log = some x) (hy : y = (given c).getD x) :
    latest given (log ++ [c]) = some y := by
  rw [latest_concat, h, hy]
  cases given c <;> rfl

structure Edit.Turns (c : Edit) (e r : Record) : Prop where
  id : r.id = e.id
  firstRole : r.firstRole = c.gives.firstRole.getD e.firstRole
  secondRole : r.secondRole = c.gives.secondRole.getD e.secondRole
  reason : r.reason = c.gives.reason.getD e.reason
  restriction : r.restriction = c.gives.restriction.getD e.restriction
  comment : r.comment = c.gives.comment.getD e.comment
  author : c.author? = some r.updatedBy
  moment : c.moment? = some r.whenUpdated
  standing : r.standing = c.standing?.getD e.standing
  turned : ∀ x, c.standing? = some x → e.standing ≠ x
  closing : r.isClosed = true →
    c.closing? = some r.closing ∨ c.closing? = none ∧ e.isClosed = true ∧ e.closing = r.closing

theorem Record.Reflects.concat (he : e.Reflects log) (hc : c.Turns e r) :
    r.Reflects (log ++ [c]) where
  firstRole := latest_concat_eq_some he.firstRole hc.firstRole
  secondRole := latest_concat_eq_some he.secondRole hc.secondRole
  reason := latest_concat_eq_some he.reason hc.reason
  restriction := latest_concat_eq_some he.restriction hc.restriction
  comment := latest_concat_eq_some he.comment hc.comment
  author := ⟨c, List.getLast?_concat, hc.author, hc.moment⟩
  standing := latest_concat_eq_some he.standing hc.standing
  closing := by
    intro hclosed
    rw [latest_concat]
    rcases hc.closing hclosed with hgiven | ⟨hnone, hbefore, hsame⟩
    · rw [hgiven]
      rfl
    · rw [hnone, Option.none_or, he.closing hbefore, hsame]
  turns := by
    cases hturn : c.standing? with
    | none => simpa [hturn] using he.turns
    | some x =>
        have hlast : (log.filterMap Edit.standing?).getLast? = some e.standing := he.standing
        have hx : e.standing ≠ x := hc.turned x hturn
        rw [List.filterMap_append, List.filterMap_cons_some hturn, List.filterMap_nil,
          List.isChain_append]
        refine ⟨he.turns, .singleton x, ?_⟩
        intro y hy z hz
        obtain rfl : e.standing = y := Option.some.inj (hlast.symm.trans hy)
        obtain rfl : x = z := Option.some.inj hz
        exact hx

/-- The codes of a record that a proposal makes are those that the proposal names. -/
theorem Proposal.read_of_record {p : Proposal} {name : String} {now : Moment}
    (h : p.record name now = .ok r) :
    Vocabulary.read Role p.firstRole = .ok r.firstRole ∧
      Vocabulary.read Role p.secondRole = .ok r.secondRole ∧
      Vocabulary.read Reason p.reason = .ok r.reason ∧
      Vocabulary.read Restriction p.restriction = .ok r.restriction := by
  simp only [record, except_bind_eq_ok] at h
  obtain ⟨firstRole, hfirst, secondRole, hsecond, reason, hreason, restriction, hrestriction, h⟩ := h
  obtain rfl := Except.ok.inj h
  exact ⟨hfirst, hsecond, hreason, hrestriction⟩

theorem Record.reflects_of_create {ctx : Context} {p : Proposal} {actor : Option String}
    {name : String} (hname : actor = some name) (hr : p.record name ctx.now = .ok r)
    (id : Option Int) : { r with id }.Reflects [.create ctx p actor] := by
  obtain ⟨hfirst, hsecond, hreason, hrestriction⟩ := Proposal.read_of_record hr
  obtain ⟨_, _, _, _, rfl⟩ := Proposal.eq_of_record hr
  constructor
  · simp [latest, Edit.gives, hfirst, Except.toOption]
  · simp [latest, Edit.gives, hsecond, Except.toOption]
  · simp [latest, Edit.gives, hreason, Except.toOption]
  · simp [latest, Edit.gives, hrestriction, Except.toOption]
  · rfl
  · exact ⟨_, rfl, hname, rfl⟩
  · rfl
  · rintro ⟨⟩
  · exact .singleton _

theorem Edit.Makes.turns (hc : c.Makes g r) (hon : c.target? = some id) :
    ∃ e, g.find? id = some e ∧ c.Turns e r := by
  cases hc with
  | create => cases hon
  | insert => cases hon
  | overwrite => cases hon
  | migrate => cases hon
  | @amend _ _ _ _ _ e _ acting stored made =>
      obtain rfl := Option.some.inj hon
      obtain rfl := Record.eq_of_amend made
      refine ⟨e, stored, rfl, rfl, rfl, rfl, rfl, rfl, acting, rfl, rfl, ?_, ?_⟩
      · rintro x ⟨⟩
      · intro hclosed
        exact .inr ⟨rfl, hclosed, rfl⟩
  | @close _ _ _ _ _ _ _ e _ acting stored opened made =>
      obtain rfl := Option.some.inj hon
      obtain ⟨name, why, at', ⟨hname, hwhy, hat⟩, rfl⟩ := Record.eq_of_close made
      obtain rfl := Option.some.inj (given?_eq_some.1 hname).1
      obtain rfl := (given?_eq_some.1 hwhy).1
      refine ⟨e, stored, rfl, rfl, rfl, rfl, rfl, rfl, acting, hat, rfl, ?_, ?_⟩
      · rintro x ⟨⟩
        rw [Record.standing, opened]
        decide
      · intro _
        rw [closing?, acting, hat]
        exact .inl rfl
  | @reopen _ _ reason _ _ _ _ e _ acting stored closed alone made =>
      obtain rfl := Option.some.inj hon
      obtain ⟨hcomment, hspoken⟩ := Record.comment_of_reopen made
      obtain rfl := Record.eq_of_reopen made
      refine ⟨e, stored, rfl, rfl, rfl, rfl, rfl, ?_, acting, rfl, rfl, ?_, ?_⟩
      · cases reason with
        | none => exact absurd rfl hspoken
        | some text => rfl
      · rintro x ⟨⟩
        have hclosed : e.isClosed = true := by simpa [Record.isOpen] using closed
        rw [Record.standing, hclosed]
        decide
      · rintro ⟨⟩

theorem Edit.Makes.id_eq (hc : c.Makes g r) (hcommand : c.isCommand = true) (hg : g.IsTable) :
    r.id = c.target? := by
  cases hc with
  | create _ _ _ _ made => exact (Proposal.pair_of_record made).1
  | amend _ stored made =>
      exact (Record.succeeds_of_amend made).1.1.trans (hg.find?_eq_some_iff.1 stored).2
  | close _ stored _ made =>
      exact (Record.succeeds_of_close made).1.1.trans (hg.find?_eq_some_iff.1 stored).2
  | reopen _ stored _ _ made =>
      exact (Record.succeeds_of_reopen made).1.1.trans (hg.find?_eq_some_iff.1 stored).2
  | insert => cases hcommand
  | overwrite => cases hcommand
  | migrate => cases hcommand

/-- Only legacy requests leave out what has a default. -/
theorem Edit.hasDefaults_of_isCommand (hcommand : c.isCommand = true) :
    c.HasDefaults Json.IsText := by
  cases c with
  | create | amend | close | reopen => trivial
  | upsert | migrate => cases hcommand

namespace Register.Stores

theorem exists_id (hv : g.Stores r v h) : ∃ n, v.id = some n := by
  have hstored : v ∈ h.records := (hv.update.mem_iff v).2 (.inl rfl)
  obtain ⟨n, hn, -⟩ := hv.update.table.exists_id hstored
  exact ⟨n, hn⟩

theorem find? (hv : g.Stores r v h) (hg : g.IsTable) (i : Int) :
    h.find? i = if v.id = some i then some v else g.find? i := by
  obtain ⟨n, hn⟩ := hv.exists_id
  exact find?_of_isUpdate hg hv.update hn i

/-- The record with an id that a command stores reflects the command if the command is on it, and else
it is as before. -/
theorem reflected (hv : g.Stores r v h) (hg : g.IsTable) (hcommand : c.isCommand = true)
    (hc : c.Makes g r) (he : g.find? id = some e) (hreflects : e.Reflects log) :
    ∃ q, h.find? id = some q ∧ q.Reflects (log ++ [c].filter (·.target? == some id)) := by
  obtain ⟨hstored, hid⟩ := hg.find?_eq_some_iff.1 he
  rw [hv.find? hg]
  by_cases hon : c.target? = some id
  · obtain ⟨d, hd, hturns⟩ := hc.turns hon
    obtain rfl : e = d := Option.some.inj (he.symm.trans hd)
    obtain rfl := hv.eq_of_stored hstored hturns.id hg
    have hmatch : (c.target? == some id) = true := beq_iff_eq.2 hon
    rw [if_pos (hturns.id.trans hid), List.filter_singleton, hmatch]
    exact ⟨v, rfl, hreflects.concat hturns⟩
  · have hother : v.id ≠ some id := by
      rcases hv.origin with ⟨-, rfl⟩ | ⟨rfl, -⟩
      · exact fun heq => id_ne_identified hstored (hid.trans heq.symm)
      · rwa [hc.id_eq hcommand hg]
    have hmismatch : (c.target? == some id) = false := beq_eq_false_iff_ne.2 hon
    rw [if_neg hother, List.filter_singleton, hmismatch, cond_false, List.append_nil]
    exact ⟨e, he, hreflects⟩

end Register.Stores

/-! ## Many calls -/

namespace Session

/-- The session in which the next call is made: a new one for each call, or one for all of them. -/
def turn (apart : Bool) (s : Session) : Session :=
  if apart then .start s.committed else s

/-- Makes a call. Apart from the others it is one transaction; together with them nothing is committed. -/
def call (apart : Bool) (s : Session) (c : Edit) : Except Fault Record × Session :=
  if apart then (s.turn apart).transact c.run
  else
    match c.run.run (s.turn apart) with
    | .ok v t => (.ok v, t)
    | .error f t => (.error f, t)

def afterCalls (apart : Bool) (s : Session) (calls : List Edit) : Session :=
  calls.foldl (fun s c => (s.call apart c).2) s

def succeeding (apart : Bool) (s : Session) : List Edit → List Edit
  | [] => []
  | c :: calls =>
    match s.call apart c with
    | (.ok _, t) => c :: t.succeeding apart calls
    | (.error _, t) => t.succeeding apart calls

variable {apart : Bool} {s t : Session} {f : Fault}

theorem run_of_call_ok (h : s.call apart c = (.ok v, t)) :
    ∃ u, c.run.run (s.turn apart) = .ok v u ∧ t.working = u.working ∧
      (apart = true → t.committed = t.working) := by
  cases hrun : c.run.run (s.turn apart) with
  | ok w u =>
      cases apart with
      | true =>
          simp only [call, if_true, transact, hrun] at h
          cases h
          exact ⟨u, rfl, rfl, fun _ => rfl⟩
      | false =>
          simp only [call, Bool.false_eq_true, if_false, hrun] at h
          cases h
          exact ⟨t, rfl, rfl, Bool.noConfusion⟩
  | error f u =>
      cases apart with
      | true => simp [call, transact, hrun] at h
      | false => simp [call, hrun] at h

theorem working_of_call_error (hs : (s.turn apart).working.IsSound) (hcommand : c.isCommand = true)
    (h : s.call apart c = (.error f, t)) :
    t.working = (s.turn apart).working ∧ (apart = true → t.committed = t.working) := by
  cases hrun : c.run.run (s.turn apart) with
  | ok v u =>
      cases apart with
      | true => simp [call, transact, hrun] at h
      | false => simp [call, hrun] at h
  | error f' u =>
      obtain ⟨-, hu⟩ := Edit.spared_of_error hs (Edit.hasDefaults_of_isCommand hcommand) hrun
      cases apart with
      | true =>
          simp only [call, if_true, transact, hrun] at h
          cases h
          rw [hu]
          exact ⟨rfl, fun _ => rfl⟩
      | false =>
          simp only [call, Bool.false_eq_true, if_false, hrun] at h
          cases h
          rw [hu]
          exact ⟨rfl, Bool.noConfusion⟩

structure Tracks (apart : Bool) (s : Session) (id : Int) (log : List Edit) : Prop where
  sound : s.working.IsSound
  steady : apart = true → s.committed = s.working
  reflected : ∃ r, s.working.find? id = some r ∧ r.Reflects log

theorem Tracks.working_turn (hs : s.Tracks apart id log) : (s.turn apart).working = s.working := by
  cases apart with
  | true => exact hs.steady rfl
  | false => rfl

theorem Tracks.succeed (hs : s.Tracks apart id log) (hcommand : c.isCommand = true)
    (h : s.call apart c = (.ok v, t)) :
    t.Tracks apart id (log ++ [c].filter (·.target? == some id)) := by
  obtain ⟨u, hrun, hworking, hsteady⟩ := run_of_call_ok h
  have hsound : (s.turn apart).working.IsSound := hs.working_turn ▸ hs.sound
  obtain ⟨hclosure, hadmits, hupdate⟩ := Edit.admits_of_run hsound.table hrun
  obtain ⟨r, hr, hstores⟩ := Edit.makes_of_run hsound.table hrun
  obtain ⟨e, he, hreflects⟩ := hs.reflected
  rw [← hs.working_turn] at he
  refine ⟨hworking ▸ hsound.update hclosure hadmits hupdate, hsteady, ?_⟩
  rw [hworking]
  exact hstores.reflected hsound.table hcommand hr he hreflects

theorem Tracks.fail (hs : s.Tracks apart id log) (hcommand : c.isCommand = true)
    (h : s.call apart c = (.error f, t)) : t.Tracks apart id log := by
  have hsound : (s.turn apart).working.IsSound := hs.working_turn ▸ hs.sound
  obtain ⟨hworking, hsteady⟩ := working_of_call_error hsound hcommand h
  rw [hs.working_turn] at hworking
  exact ⟨hworking ▸ hs.sound, hsteady, hworking ▸ hs.reflected⟩

theorem Tracks.run (hs : s.Tracks apart id log) (calls : List Edit)
    (hcalls : ∀ c ∈ calls, c.isCommand = true) :
    (s.afterCalls apart calls).Tracks apart id
      (log ++ (s.succeeding apart calls).filter (·.target? == some id)) := by
  induction calls generalizing s log with
  | nil =>
      rw [succeeding, List.filter_nil, List.append_nil]
      exact hs
  | cons c calls ih =>
      obtain ⟨hc, hcalls⟩ := List.forall_mem_cons.1 hcalls
      rw [afterCalls, List.foldl_cons, succeeding]
      rcases hcall : s.call apart c with ⟨v | f, t⟩
      · exact ih (hs.fail hc hcall) hcalls
      · have hlater := ih (hs.succeed hc hcall) hcalls
        rwa [List.append_assoc, ← List.filter_append] at hlater

theorem tracks_of_create {ctx : Context} {p : Proposal} {actor : Option String} (hs : s.IsReached)
    (hcreate : s.call apart (.create ctx p actor) = (.ok v, t)) :
    ∃ id, v.id = some id ∧ t.Tracks apart id [.create ctx p actor] := by
  obtain ⟨u, hrun, hworking, hsteady⟩ := run_of_call_ok hcreate
  have hsound : (s.turn apart).working.IsSound := by
    cases apart with
    | true => exact hs.isSound.1
    | false => exact hs.isSound.2
  obtain ⟨hclosure, hadmits, hupdate⟩ := Edit.admits_of_run hsound.table hrun
  obtain ⟨name, r, hname, -, -, -, hr, hstores⟩ := Command.stores_of_create hsound.table hrun
  obtain ⟨id, hid⟩ := hstores.exists_id
  refine ⟨id, hid, hworking ▸ hsound.update hclosure hadmits hupdate, hsteady, v, ?_, ?_⟩
  · rw [hworking, hstores.find? hsound.table, if_pos hid]
  · rw [hstores.record]
    exact Record.reflects_of_create hname hr v.id

/-- After a record is created and any commands on this and other records are made, each on its own or all
together, whether they succeed or fail, the record is there and reflects its creation and those commands
on it that succeeded. If each is made on its own, that is what is committed. -/
theorem record_reflects_commands {ctx : Context} {p : Proposal} {actor : Option String}
    (hs : s.IsReached) (hcreate : s.call apart (.create ctx p actor) = (.ok v, t))
    (calls : List Edit) (hcalls : ∀ c ∈ calls, c.isCommand = true) :
    ∃ id r, v.id = some id ∧ (t.afterCalls apart calls).working.find? id = some r ∧
      r.Reflects (.create ctx p actor ::
        (t.succeeding apart calls).filter (·.target? == some id)) ∧
      (apart = true → (t.afterCalls apart calls).committed = (t.afterCalls apart calls).working) := by
  obtain ⟨id, hid, htracks⟩ := tracks_of_create hs hcreate
  have hafter := htracks.run calls hcalls
  obtain ⟨r, hr, hreflects⟩ := hafter.reflected
  exact ⟨id, r, hid, hr, hreflects, hafter.steady⟩

/-- The record is amended, closed and reopened in one transaction. A second closing of it and the closing
of a record that is not there fail. -/
theorem record_reflects_commands_reopened :
    ∃ (ctx : Context) (p : Proposal) (s t : Session) (v r : Record) (calls : List Edit),
      s.IsReached ∧ s.call false (.create ctx p (some "USER")) = (.ok v, t) ∧
        (∀ c ∈ calls, c.isCommand = true) ∧
        calls.filterMap Edit.standing? = [.closed, .closed, .closed, .opened] ∧
        (t.succeeding false calls).filterMap Edit.standing? = [.closed, .opened] ∧
        (t.afterCalls false calls).working.find? 1 = some r ∧
        r.Reflects (.create ctx p (some "USER") ::
          (t.succeeding false calls).filter (·.target? == some 1)) ∧
        r.reason = .violence ∧ r.comment = "They met" ∧ r.isClosed = false := by
  let d : Directory := .of [.plain "A1" "MDI", .plain "B2" "MDI"]
  let ctx : Context := ⟨Moment.earliest, some d⟩
  let p : Proposal :=
    ⟨"A1", .str "UNKNOWN", "B2", .str "UNKNOWN", .str "OTHER", .str "CELL", "Kept apart", false⟩
  let v : Record := { Merge.plain 1 "A1" "B2" with authorisedBy := some "USER" }
  let t : Session :=
    { Session.start .empty with working := ⟨[v]⟩, searches := Directory.searches ["A1", "B2"] }
  let close (id : Int) : Edit := .close ctx id (some "Settled") (some "USER") none none
  let calls : List Edit := [
    .amend ctx 1 (some "USER")
      { Amendment.nothing with reason := some .violence, comment := some "They fought" },
    close 1, close 1, close 2, .reopen ctx 1 (some "They met") (some "USER") none none]
  have hs : (Session.start .empty).IsReached := .start []
  have hfound : d.search ["A1", "B2"] =
      .ok [(.str "A1", .plain "A1" "MDI"), (.str "B2", .plain "B2" "MDI")] :=
    Directory.search_eq_ok (List.cons_ne_nil _ _) rfl (by decide)
  have hrun : (Command.create ctx p (some "USER")).run (.start .empty) = .ok v t := by
    unfold Command.create
    dsimp only
    simp only [bind_eq_ok, requireActor_eq_ok, guard_reject_eq_ok, guard_throw_eq_ok, lookUp_eq_ok,
      requireNoOtherOpen_eq_ok, attempt_eq_ok]
    exact ⟨"USER", _, ⟨rfl, rfl, rfl⟩, by decide, by decide, by decide, _, _, ⟨d, rfl, hfound, rfl⟩,
      (), _, ⟨rfl, List.forall_mem_nil _, rfl⟩, _, _, ⟨rfl, rfl⟩, rfl⟩
  have hcreate : (Session.start .empty).call false (.create ctx p (some "USER")) = (.ok v, t) := by
    have hturn : (Edit.create ctx p (some "USER")).run.run ((Session.start .empty).turn false) =
        .ok v t := hrun
    rw [call, if_neg Bool.false_ne_true, hturn]
  have hcalls : ∀ c ∈ calls, c.isCommand = true := by decide
  have hmade : (t.succeeding false calls).filterMap Edit.standing? = [.closed, .opened] := by
    decide +kernel
  have hlast : ((t.afterCalls false calls).working.find? 1).map
      (fun r => (r.reason, r.comment, r.isClosed)) = some (.violence, "They met", false) := by
    decide +kernel
  obtain ⟨id, r, hid, hr, hreflects, -⟩ := record_reflects_commands hs hcreate calls hcalls
  obtain rfl : 1 = id := Option.some.inj hid
  rw [hr] at hlast
  obtain ⟨hreason, hcomment, hopen⟩ : r.reason = .violence ∧ r.comment = "They met" ∧
      r.isClosed = false := by simpa using hlast
  exact ⟨ctx, p, _, t, v, r, calls, hs, hcreate, hcalls, rfl, hmade, hr, hreflects, hreason, hcomment,
    hopen⟩

end Session

end KeepApart
