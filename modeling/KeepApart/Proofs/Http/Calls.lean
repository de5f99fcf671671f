import KeepApart.Http.Server
import KeepApart.Proofs.Closure
import KeepApart.Proofs.Merge.Values

/-!
# What served requests do to the register

A call that succeeds is an edit, a merge, an event or a reading, and a reading leaves the register as it
was. A request leaves behind what its call made of the register, or the register itself when nothing was
called for or the call failed.
-/

namespace KeepApart

open KeepApart.Action

/-! ## Readings -/

section Readings

variable {P : Session → Prop} {ctx : Context}

namespace Query

instance (found : Found) (number : String) : Keeps P (details found number) := by
  unfold details
  split <;> infer_instance

instance (found : Found) (number : String) (r : Record) : Keeps P (opposite found number r) := by
  unfold opposite
  split <;> infer_instance

instance (found : Found) (r : Record) : Keeps P (second found r) := by
  unfold second
  infer_instance

instance (found : Found) (numbers : List String) : Keeps P (requirePrisons found numbers) := by
  unfold requirePrisons
  dsimp only
  infer_instance

variable [∀ numbers, Keeps P (ctx.lookUp numbers)]

instance (number : String) (o : ListOptions) : Keeps P (forPrisoner ctx number o) := by
  unfold forPrisoner
  dsimp only
  infer_instance

instance (numbers : List String) (o : ListOptions) : Keeps P (amongGroup ctx numbers o) := by
  unfold amongGroup
  dsimp only
  infer_instance

instance (number : String) (currentPrisonOnly excludeInactive : Bool) :
    Keeps P (Legacy.view ctx number currentPrisonOnly excludeInactive) := by
  unfold Legacy.view
  infer_instance

end Query

def Session.HasWorking (g : Register) (s : Session) : Prop := s.working = g

instance (g : Register) (numbers : List String) :
    Keeps (Session.HasWorking g) (ctx.lookUp numbers) := by
  have hasked (f : Session → List (List String)) :
      Keeps (Session.HasWorking g) (modify fun s => { s with searches := f s } : Action Unit) :=
    ⟨fun _ hs => hs⟩
  unfold Context.lookUp
  split <;> infer_instance

end Readings

namespace Http

/-! ## Calls -/

section Calls

variable {around : Surroundings} {defaults : SyncDefaults} {actor : Option String} {call : Call}
variable {s t : Session} {v : Json}

theorem requireCalendar_eq_ok {m : Moment} {u : Unit} :
    (requireCalendar m).run s = .ok u t ↔ (Moment.earliest ≤ m ∧ m < Moment.limit) ∧ s = t := by
  unfold requireCalendar
  split
  · simp [*]
  · simp [*]

theorem requireCalendar?_eq_ok {m? : Option Moment} {u : Unit} :
    (requireCalendar? m?).run s = .ok u t ↔
      (∀ m, m? = some m → Moment.earliest ≤ m ∧ m < Moment.limit) ∧ s = t := by
  cases m? <;> simp [requireCalendar?, requireCalendar_eq_ok]

theorem eq_of_requireDates {q : LegacyRequest} {u : Unit} (h : (requireDates q).run s = .ok u t) :
    s = t := by
  simp only [requireDates, bind_eq_ok, requireCalendar_eq_ok, requireCalendar?_eq_ok] at h
  obtain ⟨_, _, ⟨-, rfl⟩, -, rfl⟩ := h
  rfl

section Keeps

variable {P : Session → Prop}

instance (m : Moment) : Keeps P (requireCalendar m) := by
  unfold requireCalendar
  infer_instance

instance (m? : Option Moment) : Keeps P (requireCalendar? m?) := by
  cases m? <;> unfold requireCalendar? <;> infer_instance

instance (q : LegacyRequest) : Keeps P (requireDates q) := by
  unfold requireDates
  infer_instance

variable [IsInvariant P]

instance (now : Moment) (q : LegacyRequest) : Keeps P (Sync.upsert now defaults q) := by
  unfold Sync.upsert
  infer_instance

instance : Keeps P (call.run around defaults actor) := by
  cases call <;> unfold Call.run <;> infer_instance

end Keeps

def Call.edit? (around : Surroundings) (defaults : SyncDefaults) (actor : Option String) :
    Call → Option Edit
  | .create p => some (.create around.context p actor)
  | .amend id a => some (.amend around.context id actor a)
  | .close id turn =>
    some (.close around.context id (some turn.reason) actor turn.person turn.at?)
  | .reopen id turn =>
    some (.reopen around.context id (some turn.reason) actor turn.person turn.at?)
  | .upsert q => some (.upsert around.context.now around.context.now defaults q)
  | .migrate q => some (.migrate around.context.now defaults q)
  | _ => none

def Call.isReading : Call → Bool
  | .constants | .between _ _ | .find _ | .ofPrisoner _ _ | .legacyDetails _ _ _ => true
  | _ => false

/-- What a call that succeeds does to the session, and how it shows the outcome. -/
inductive Call.Effect (around : Surroundings) (defaults : SyncDefaults) (actor : Option String)
    (s t : Session) : Call → Json → Prop where
  | edit {call : Call} {c : Edit} {r : Record} (made : call.edit? around defaults actor = some c)
      (run : c.run.run s = .ok r t) : Effect around defaults actor s t call (View.record r)
  | merge {old new : String} {w : Window} {m : MergeResults}
      (run : (Merge.run old new w).run s = .ok m t) :
      Effect around defaults actor s t (.merge old new w) (View.merged m)
  | event {e : PrisonerEvent} {outcome : Option MergeReport} {v : Json}
      (run : (e.apply around.latest).run s = .ok outcome t)
      (shown : View.eventOutcome outcome = .ok v) : Effect around defaults actor s t (.event e) v
  | reading {call : Call} {v : Json} (reads : call.isReading = true) (kept : t.working = s.working) :
      Effect around defaults actor s t call v

theorem View.eq_of_saved {w : Saved} (h : View.saved w = .ok v) : v = View.record w.record := by
  unfold View.saved at h
  split at h
  · exact (Except.ok.inj h).symm
  · cases h

theorem View.isPlain_of_eventOutcome {m : MergeReport}
    (h : View.eventOutcome (some m) = .ok v) : m.isPlain = true ∧
      v = .obj [("handled", .bool true),
        ("results", View.merged ⟨m.renamed.map (·.record), m.superseding, m.collapsed⟩)] := by
  unfold View.eventOutcome at h
  dsimp only at h
  split at h
  · rename_i hplain
    exact ⟨hplain, (Except.ok.inj h).symm⟩
  · cases h

theorem Call.effect_of_run (h : (call.run around defaults actor).run s = .ok v t) :
    call.Effect around defaults actor s t v := by
  have hkept {act : Action Json} [Keeps (Session.HasWorking s.working) act]
      (h : act.run s = .ok v t) : t.working = s.working :=
    Keeps.of_ok (P := Session.HasWorking s.working) rfl h
  unfold Call.run at h
  cases call with
  | constants | between _ _ | find _ | ofPrisoner _ _ | legacyDetails _ _ _ =>
      exact .reading rfl (hkept h)
  | create p | amend id a =>
      simp only [bind_eq_ok, pure_eq_ok] at h
      obtain ⟨r, _, hrun, rfl, rfl⟩ := h
      exact .edit rfl hrun
  | close id turn | reopen id turn =>
      simp only [bind_eq_ok, requireCalendar?_eq_ok, pure_eq_ok] at h
      obtain ⟨_, _, ⟨-, rfl⟩, r, _, hrun, rfl, rfl⟩ := h
      exact .edit rfl hrun
  | upsert q | migrate q =>
      simp only [bind_eq_ok, attempt_eq_ok] at h
      obtain ⟨_, _, hdates, w, _, hrun, hview, rfl⟩ := h
      obtain rfl := eq_of_requireDates hdates
      obtain rfl := View.eq_of_saved hview
      exact .edit rfl (bind_eq_ok.2 ⟨w, _, hrun, rfl⟩)
  | merge old new w =>
      simp only [bind_eq_ok, requireCalendar?_eq_ok, pure_eq_ok] at h
      obtain ⟨_, _, ⟨-, rfl⟩, _, _, ⟨-, rfl⟩, m, _, hrun, rfl, rfl⟩ := h
      exact .merge hrun
  | event e =>
      simp only [bind_eq_ok, attempt_eq_ok] at h
      obtain ⟨outcome, _, hrun, hview, rfl⟩ := h
      exact .event hrun hview

/-- What edits and the outcomes of merges keep of a table, a call that succeeds keeps. -/
theorem Call.Effect.keeps {I : Register → Prop} (h : call.Effect around defaults actor s t v)
    (hs : s.working.IsTable) (hI : I s.working)
    (hedit : ∀ c r, call.edit? around defaults actor = some c → c.run.run s = .ok r t → I t.working)
    (hmerge : ∀ old new q m g m' g', q ∈ s.working.records →
      Merge.ValueOutcome old new g q m m' g' → m'.isPlain = true → I g → I g') : I t.working := by
  have hmerged {old new : Json} {w : Window} {m : MergeReport} {g : Register}
      (hm : Merge.Merged old new w s.working m g) (hplain : m.isPlain = true) : I g :=
    hm.keeps hplain hI fun q hq m g m' g' => hmerge old new q m g m' g' hq
  cases h with
  | edit made run => exact hedit _ _ made run
  | merge run => exact hmerged (Merge.merged_of_run hs run) Merge.isPlain_report
  | event run shown =>
      have happlied := PrisonerEvent.applied_of_run hs run
      generalize t.working = g at happlied ⊢
      cases happlied with
      | ignored => exact hI
      | merge _ merged => exact hmerged merged (View.isPlain_of_eventOutcome shown).1
  | reading _ kept =>
      rw [kept]
      exact hI

end Calls

/-! ## Requests -/

namespace Server

variable {s : Server} {around : Surroundings} {q : Request} {state : ServiceState}

/-- A request is received when it has content and an acting person where its operation takes them, a
right key and a form that is filled in. -/
theorem receive_eq_ok {o : Operation} {actor : Option String} {call : Call} :
    s.receive q o = .ok (actor, call) ↔ ∃ body,
      (if o.hasContent then (Body.ofRequest q).mapError Refusal.badContent else .ok .missing) =
        .ok body ∧
      (if o.hasActor then actingPerson q else .ok none) = .ok actor ∧
      s.checkKey q o = .ok () ∧ o.check q body = .accepted call := by
  have hbind {ε α β : Type} {c : Prop} [Decidable c] (x y : Except ε α) (f : α → Except ε β) :
      (if c then x >>= f else y >>= f) = (if c then x else y) >>= f := by
    split <;> rfl
  simp only [receive, hbind, except_bind_eq_ok]
  constructor
  · rintro ⟨body, hbody, actor', hactor, _, hkey, h⟩
    split at h
    · rename_i hcheck
      cases h
      exact ⟨body, hbody, hactor, hkey, hcheck⟩
    · cases h
  · rintro ⟨body, hbody, hactor, hkey, hcheck⟩
    refine ⟨body, hbody, actor, hactor, (), hkey, ?_⟩
    rw [hcheck]
    rfl

/-- A request for an operation is refused when it is received, or what it calls for is done or fails.
Each of the three has its own response and says what becomes of the register. -/
inductive Answers (s : Server) (around : Surroundings) (q : Request) (requestId : String)
    (o : Operation) (g : Register) : Response → Register → Prop where
  | refused {r : Refusal} (refusal : s.receive q o = .error r) :
      Answers s around q requestId o g (r.response requestId) g
  | done {actor : Option String} {call : Call} {v : Json} {t : Session}
      (received : s.receive q o = .ok (actor, call))
      (run : (call.run around s.settings.syncDefaults actor).run (Session.start g) = .ok v t) :
      Answers s around q requestId o g
        { Response.ofJson o.successStatus v with requestId := some requestId } t.working
  | failed {actor : Option String} {call : Call} {f : Fault} {t : Session}
      (received : s.receive q o = .ok (actor, call))
      (run : (call.run around s.settings.syncDefaults actor).run (Session.start g) = .error f t) :
      Answers s around q requestId o g ((Failure.ofFault f).response requestId) g

theorem answers_of_serve (state : ServiceState) {requestId : String} {o : Operation} :
    s.Answers around q requestId o state.register (s.serve around q requestId o state).1
      (s.serve around q requestId o state).2.register := by
  unfold serve
  split
  · rename_i hrefused
    exact .refused hrefused
  · rename_i actor call hreceived
    simp only [Session.transact]
    cases hrun : (call.run around s.settings.syncDefaults actor).run
        (Session.start state.register) with
    | ok v t => exact .done hreceived hrun
    | error f t =>
        have hcommitted : t.committed = state.register := KeepsCommitted.of_error hrun
        simp only [Session.rollback, hcommitted]
        exact .failed hreceived hrun

def Receives (s : Server) (q : Request) (actor : Option String) (call : Call) : Prop :=
  ∃ o, Destination.of q.method q.path = .found (.operation o) ∧ s.receive q o = .ok (actor, call)

inductive Leaves (s : Server) (around : Surroundings) (q : Request) (g : Register) :
    Register → Prop where
  | same : Leaves s around q g g
  | called {actor : Option String} {call : Call} {v : Json} {t : Session}
      (received : s.Receives q actor call)
      (run : (call.run around s.settings.syncDefaults actor).run (Session.start g) = .ok v t) :
      Leaves s around q g t.working

theorem Answers.leaves {requestId : String} {o : Operation} {g h : Register} {response : Response}
    (ho : Destination.of q.method q.path = .found (.operation o))
    (ha : s.Answers around q requestId o g response h) : s.Leaves around q g h := by
  cases ha with
  | refused _ | failed _ _ => exact .same
  | done received run => exact .called ⟨o, ho, received⟩ run

theorem leaves_of_handle :
    s.Leaves around q state.register (s.handle around q state).2.register := by
  have hrespond (requestId : String) (log : SecurityLog) : s.Leaves around q state.register
      (s.respond around q requestId { state with log }).2.register := by
    unfold respond
    dsimp only
    split
    · exact .same
    · split
      · rename_i hfound
        exact (answers_of_serve { state with log }).leaves hfound
      all_goals exact .same
  unfold handle
  dsimp only
  exact hrespond _ _

/-- What a series of requests leaves behind, each with its surroundings, from an empty register. -/
def served (s : Server) (requests : List (Surroundings × Request)) : ServiceState :=
  requests.foldl (fun state q => (s.handle q.1 q.2 state).2) {}

theorem served_concat (requests : List (Surroundings × Request)) (q : Surroundings × Request) :
    s.served (requests ++ [q]) = (s.handle q.1 q.2 (s.served requests)).2 := by
  rw [served, served, List.foldl_append]
  rfl

/-- What holds of the empty register and is kept by every call of the series holds of what the series
leaves behind. -/
theorem served_keeps {I : Register → Prop} (requests : List (Surroundings × Request))
    (hempty : I .empty)
    (hcalls : ∀ q ∈ requests, ∀ actor call, s.Receives q.2 actor call → ∀ g v t, I g →
      (call.run q.1 s.settings.syncDefaults actor).run (Session.start g) = .ok v t → I t.working) :
    I (s.served requests).register := by
  induction requests using List.reverseRecOn with
  | nil => exact hempty
  | append_singleton requests q ih =>
      have hbefore : I (s.served requests).register :=
        ih fun p hp => hcalls p (List.mem_append_left _ hp)
      have hlast : q ∈ requests ++ [q] := List.mem_append_right _ List.mem_cons_self
      rw [served_concat]
      -- `Leaves` can only be taken apart when the register after the request is a variable.
      generalize hafter : (s.handle q.1 q.2 (s.served requests)).2.register = after
      have hleaves : s.Leaves q.1 q.2 (s.served requests).register after := by
        rw [← hafter]
        exact leaves_of_handle
      cases hleaves with
      | same => exact hbefore
      | called received run => exact hcalls q hlast _ _ received _ _ _ hbefore run

end Server

end Http

end KeepApart
