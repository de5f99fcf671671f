import KeepApart.Proofs.Failure
import KeepApart.Proofs.Http.Forms
import KeepApart.Proofs.Http.Keys
import KeepApart.Proofs.Http.Paths
import KeepApart.Proofs.Merge.Reports
import KeepApart.Proofs.OpenPairs

/-!
# Reading back what was written

A request that succeeds answers with what it left in the register. A record that it shows is stored as it
is shown, so that reading its id shows it again; the id of a record that a merge deleted reads nothing.
Both rest on the register being sound, which it is however it came about.
-/

namespace KeepApart.Http

open KeepApart.Action Schema Schema.Checked

theorem View.merged_report (m : MergeResults) :
    View.merged ⟨m.report.renamed.map (·.record), m.report.superseding, m.report.collapsed⟩ =
      View.merged m := by
  have hrecords : (m.renamed.map Saved.ofRecord).map (·.record) = m.renamed := by
    rw [List.map_map]
    exact List.map_id _
  rw [MergeResults.report, hrecords]

namespace Server

variable {s : Server} {around : Surroundings} {q : Request} {state : ServiceState} {g h : Register}

/-! ## Reading one record -/

/-- A request for the record with this id, with the key if the server asks for one. -/
structure AsksFor (s : Server) (id : Int) (q : Request) : Prop where
  method : q.method = "GET"
  path : q.path = "/api/v1/non-associations/" ++ toString id
  key : s.needsKey (.find (toString id)) = true → q.header? "X-API-Key" = some s.key

def Shows (s : Server) (state : ServiceState) (id : Int) (v : Json) : Prop :=
  ∀ around q, s.AsksFor id q → (s.handle around q state).1.status = 200 ∧
    (s.handle around q state).1.content = .json v

def Misses (s : Server) (state : ServiceState) (id : Int) : Prop :=
  ∀ around q, s.AsksFor id q → (s.handle around q state).1.status = 404

namespace AsksFor

variable {id : Int} (hq : s.AsksFor id q)
include hq

theorem found : Destination.of q.method q.path = .found (.operation (.find (toString id))) := by
  rw [hq.method, hq.path]
  exact Destination.of_record (slash_not_mem_toString id) (toString_ne_empty id)

theorem received (hid : Column.isStorable id = true) :
    s.receive q (.find (toString id)) = .ok (none, .find id) := by
  have hkey : s.checkKey q (.find (toString id)) = .ok () := checkKey_eq_ok.2 hq.key
  have hcheck : (Operation.find (toString id)).check q .missing = accepted (.find id) := by
    rw [Operation.check, recordId_toString hid]
    rfl
  exact receive_eq_ok.2 ⟨.missing, rfl, rfl, hkey, hcheck⟩

theorem answer (hid : Column.isStorable id = true) (around : Surroundings) (state : ServiceState) :
    match state.register.find? id with
    | some r => (s.handle around q state).1.status = 200 ∧
        (s.handle around q state).1.content = .json (View.record r)
    | none => (s.handle around q state).1.status = 404 := by
  have hanswers : s.Answers around q (around.requestId q) (.find (toString id)) state.register
      (s.handle around q state).1 (s.handle around q state).2.register := answers_of_handle hq.found
  generalize (s.handle around q state).1 = response at hanswers ⊢
  generalize (s.handle around q state).2.register = after at hanswers
  have hreceived := hq.received hid
  cases hanswers with
  | refused refusal =>
      rw [hreceived] at refusal
      cases refusal
  | done received run =>
      obtain ⟨rfl, rfl⟩ := Prod.mk.inj (Except.ok.inj (hreceived.symm.trans received))
      simp only [Call.run, bind_eq_ok, require_eq_ok, pure_eq_ok] at run
      obtain ⟨r, _, ⟨-, -, hfind, rfl⟩, rfl, rfl⟩ := run
      change state.register.find? id = some r at hfind
      rw [hfind]
      exact ⟨rfl, rfl⟩
  | failed received run =>
      obtain ⟨rfl, rfl⟩ := Prod.mk.inj (Except.ok.inj (hreceived.symm.trans received))
      rw [Call.run, bind_pure_eq_error, require_eq_error] at run
      obtain ⟨⟨hbroken, -⟩ | ⟨-, ⟨hid', -⟩ | ⟨-, hfind, rfl⟩⟩, -⟩ := run
      · cases hbroken
      · rw [hid] at hid'
        cases hid'
      · change state.register.find? id = none at hfind
        rw [hfind]
        rfl

end AsksFor

/-- The body has an id under which reading shows it again. -/
def ReadsBack (s : Server) (state : ServiceState) (v : Json) : Prop :=
  ∃ n, v.get? "id" = some (.int n) ∧ s.Shows state n v

def IsGone (s : Server) (state : ServiceState) (v : Json) : Prop :=
  ∃ n, v.get? "id" = some (.int n) ∧ s.Misses state n

theorem get?_id_record {r : Record} {n : Int} (hn : r.id = some n) :
    (View.record r).get? "id" = some (.int n) := by
  change some (Json.ofInt? r.id) = _
  rw [hn]
  rfl

theorem readsBack_of_stored {r : Record} (hg : state.register.IsTable)
    (hr : r ∈ state.register.records) : s.ReadsBack state (View.record r) := by
  obtain ⟨n, hn, hid⟩ := hg.exists_id hr
  refine ⟨n, get?_id_record hn, ?_⟩
  intro around q hq
  have hanswer := hq.answer hid around state
  rw [hg.find?_eq_some_iff.2 ⟨hr, hn⟩] at hanswer
  exact hanswer

theorem isGone_of_deleted {r : Record} {n : Int} (hg : state.register.IsTable)
    (hr : Merge.IsDeleted state.register r) (hn : r.id = some n) (hid : Column.isStorable n = true) :
    s.IsGone state (View.record r) := by
  refine ⟨n, get?_id_record hn, ?_⟩
  intro around q hq
  have hanswer := hq.answer hid around state
  have hfind : state.register.find? n = none := by
    rw [Option.eq_none_iff_forall_ne_some]
    intro e he
    obtain ⟨he, heid⟩ := hg.find?_eq_some_iff.1 he
    exact hr e he (heid.trans hn.symm)
  rw [hfind] at hanswer
  exact hanswer

/-! ## The results of a merge -/

/-- Every record among the results is read as the results show it, and no deleted one can be read. -/
inductive Reflects (s : Server) (state : ServiceState) : Json → Prop where
  | intro {renamed superseded collapsed : List Json} (renamedRead : ∀ v ∈ renamed, s.ReadsBack state v)
      (supersededRead : ∀ v ∈ superseded, s.ReadsBack state v)
      (collapsedGone : ∀ v ∈ collapsed, s.IsGone state v) :
      Reflects s state (.obj [("renamed", .arr renamed), ("superseded", .arr superseded),
        ("collapsed", .arr collapsed)])

theorem reflects_of_merged {old new : Json} {w : Window} {m : MergeReport} (hg : g.IsSound)
    (hm : Merge.Merged old new w g m state.register) :
    s.Reflects state (View.merged ⟨m.renamed.map (·.record), m.superseding, m.collapsed⟩) := by
  have hafter : state.register.IsTable := hm.isTable hg.table
  obtain ⟨hrenamed, hsuperseding, hcollapsed⟩ := hm.reported hg
  refine .intro ?_ ?_ ?_
  · simp only [List.forall_mem_map]
    exact fun v hv => readsBack_of_stored hafter (hrenamed v hv)
  · simp only [List.forall_mem_map]
    exact fun r hr => readsBack_of_stored hafter (hsuperseding r hr)
  · simp only [List.forall_mem_map]
    intro r hr
    obtain ⟨hdeleted, n, hn, hid⟩ := hcollapsed r hr
    exact isGone_of_deleted hafter hdeleted hn hid

/-! ## Registers that come about -/

/-- Calls and requests, of whatever servers, lead from the empty register to this one. -/
inductive Reachable : Register → Prop where
  | empty : Reachable .empty
  | step {g : Register} (step : Step) (before : Reachable g) : Reachable (g.after step)
  | request {state : ServiceState} (s : Server) (around : Surroundings) (q : Request)
      (before : Reachable state.register) : Reachable (s.handle around q state).2.register

theorem Leaves.isSound (hh : s.Leaves around q g h) (hg : g.IsSound) : h.IsSound := by
  cases hh with
  | same => exact hg
  | called _ run =>
      refine (Call.effect_of_run run).keeps hg.table hg ?_ ?_
      · intro c r _ hmade
        obtain ⟨hclosure, hadmits, hupdate⟩ := Edit.admits_of_run (by exact hg.table) hmade
        exact hg.update hclosure hadmits hupdate
      · rintro old new r m h m' h' - ho hplain hh
        exact ho.isSound hplain hh

theorem Reachable.isSound (hg : Reachable g) : g.IsSound := by
  induction hg with
  | empty => exact Register.isSound_empty
  | @step g step _ ih =>
      cases step with
      | edit c => exact ih.after_edit c
      | merge old new w =>
          rcases Register.after_merge ih old new w with h | ⟨hne, hp⟩
          · rw [h]
            exact ih
          · exact hp.isSound ih hne
  | request s around q _ ih => exact leaves_of_handle.isSound ih

/-! ## Writing -/

def Mirrors (s : Server) (state : ServiceState) (v : Json) : Operation → Prop
  | .create | .amend _ | .close _ | .reopen _ | .upsert | .migrate => s.ReadsBack state v
  | .merge => s.Reflects state v
  | .event => v.get? "handled" = some (.bool false) ∨ ∃ results,
      v.get? "handled" = some (.bool true) ∧ v.get? "results" = some results ∧ s.Reflects state results
  | .constants | .between | .find _ | .ofPrisoner _ | .legacyDetails _ => True

theorem mirrors_of_effect {o : Operation} {call : Call} {defaults : SyncDefaults}
    {actor : Option String} {t : Session} {v : Json} (hg : g.IsSound) (hasks : o.Asks call)
    (heffect : call.Effect around defaults actor (Session.start g) t v)
    (hafter : state.register = t.working) : s.Mirrors state v o := by
  have hedit {c : Edit} {r : Record} (run : c.run.run (Session.start g) = .ok r t) :
      s.ReadsBack state (View.record r) := by
    obtain ⟨-, -, hupdate⟩ := Edit.admits_of_run (by exact hg.table) run
    rw [← hafter] at hupdate
    exact readsBack_of_stored hupdate.table ((hupdate.mem_iff r).2 (.inl rfl))
  cases hasks with
  | create _ | amend _ | close _ | reopen _ | upsert _ | migrate _ =>
      cases heffect with
      | edit _ run => exact hedit run
      | reading reads _ => cases reads
  | merge _ =>
      cases heffect with
      | edit made _ => cases made
      | merge run =>
          have hm := Merge.merged_of_run (by exact hg.table) run
          rw [← hafter] at hm
          rw [← View.merged_report]
          exact reflects_of_merged hg hm
      | reading reads _ => cases reads
  | event =>
      cases heffect with
      | edit made _ => cases made
      | event run shown =>
          have happlied := PrisonerEvent.applied_of_run (by exact hg.table) run
          rw [← hafter] at happlied
          cases happlied with
          | ignored =>
              obtain rfl := Except.ok.inj shown
              exact .inl rfl
          | merge _ hm =>
              obtain ⟨-, rfl⟩ := View.isPlain_of_eventOutcome shown
              exact .inr ⟨_, rfl, rfl, reflects_of_merged hg hm⟩
      | reading reads _ => cases reads
  | _ => trivial

/-- Whatever was done before, a request that succeeds shows what a request for the record shows right
after it; of the records that a merge deleted there is none. -/
theorem answers_read_back {o : Operation} (hg : Reachable state.register)
    (ho : Destination.of q.method q.path = .found (.operation o))
    (hsuccess : (s.handle around q state).1.IsSuccess) :
    ∃ v, (s.handle around q state).1.content = .json v ∧ s.Mirrors (s.handle around q state).2 v o := by
  obtain ⟨actor, call, v, t, hreceived, hrun, hcontent, hafter⟩ :=
    (answers_of_handle ho).done_of_isSuccess hsuccess
  obtain ⟨body, -, -, -, hcheck⟩ := receive_eq_ok.1 hreceived
  exact ⟨v, hcontent, mirrors_of_effect hg.isSound (Operation.asks_of_check hcheck)
    (Call.effect_of_run hrun) hafter⟩

/-- A merge that renames a record answers with that record, and so does a request for it. -/
theorem answers_read_back_renamed :
    let s : Server := { settings := .defaults, name := "localhost" }
    let around : Surroundings := ⟨⟨Moment.earliest, none⟩, Moment.earliest, .answered, "7", ""⟩
    let q : Request :=
      { method := "POST"
        path := "/api/v1/merge"
        headers := [("Content-Type", "application/json")]
        content := "\x7b\"oldPrisonerNumber\": \"A1234BC\", \"newPrisonerNumber\": \"B2345CD\"\x7d" }
    let state : ServiceState :=
      { register := Register.empty.after (.plain {} "A1234BC" "C3456DE" none) }
    ∃ v vs, (s.handle around q state).1.content = .json (.obj [("renamed", .arr (v :: vs)),
        ("superseded", .arr []), ("collapsed", .arr [])]) ∧
      s.ReadsBack (s.handle around q state).2 v := by
  intro s around q state
  have hg : Reachable state.register := .step (.plain {} "A1234BC" "C3456DE" none) .empty
  have ho : Destination.of q.method q.path = .found (.operation .merge) := by decide
  have hsuccess : (s.handle around q state).1.IsSuccess := by
    unfold Response.IsSuccess
    decide +kernel
  have hlists : ["renamed", "superseded", "collapsed"].map (fun name =>
      ((s.handle around q state).1.content.json?.bind (·.get? name)).map Json.isNothing) =
        [some false, some true, some true] := by decide +kernel
  obtain ⟨v, hv, hreflects⟩ := answers_read_back hg ho hsuccess
  rw [hv] at hlists ⊢
  cases hreflects with
  | @intro renamed superseded collapsed renamedRead _ _ =>
      change [some renamed.isEmpty, some superseded.isEmpty, some collapsed.isEmpty] = _ at hlists
      simp only [List.cons.injEq, Option.some.injEq, List.isEmpty_eq_false_iff, List.isEmpty_iff,
        and_true] at hlists
      obtain ⟨hrenamed, rfl, rfl⟩ := hlists
      obtain ⟨v, vs, rfl⟩ := List.exists_cons_of_ne_nil hrenamed
      exact ⟨v, vs, rfl, renamedRead v List.mem_cons_self⟩

end Server

end KeepApart.Http
