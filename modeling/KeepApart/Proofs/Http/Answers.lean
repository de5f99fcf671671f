import KeepApart.Proofs.Http.Calls

/-!
# How requests are answered

A request for an operation is never a preflight, since no route has that method. A refusal blames the
client, a failure is never a success, and so success says that a call was done.
-/

namespace KeepApart.Http

open Destination

/-! ## Where requests lead -/

theorem Destination.exists_route_of_found {method path : String} {e : Endpoint}
    (h : Destination.of method path = .found e) : ∃ r ∈ Route.all, method ∈ r.methods := by
  unfold Destination.of at h
  dsimp only at h
  split at h
  · rename_i r ps hfind
    have hmethod := List.find?_some hfind
    have hfits : (r, ps) ∈ fitting path := List.mem_of_find?_eq_some hfind
    obtain ⟨r', hr', hps⟩ := List.mem_filterMap.1 hfits
    obtain ⟨_, -, heq⟩ := Option.map_eq_some_iff.1 hps
    obtain rfl : r' = r := congrArg Prod.fst heq
    exact ⟨r', hr', by simpa using hmethod⟩
  · split at h
    · cases h
    · split at h <;> cases h

/-- A preflight leads nowhere. -/
theorem Cors.not_preflight_of_found {q : Request} {e : Endpoint}
    (h : Destination.of q.method q.path = .found e) : Cors.Preflight.ofRequest? q = none := by
  obtain ⟨r, hr, hmethod⟩ := Destination.exists_route_of_found h
  have hroutes : ∀ r ∈ Route.all, "OPTIONS" ∉ r.methods := by decide
  have hne : q.method ≠ "OPTIONS" := by
    intro heq
    rw [heq] at hmethod
    exact hroutes r hr hmethod
  unfold Cors.Preflight.ofRequest?
  rw [if_neg (by simpa using hne)]

/-! ## Answers -/

def Surroundings.requestId (around : Surroundings) (q : Request) : String :=
  (q.header? "X-Request-ID").getD around.drawnId

theorem Server.answers_of_handle {s : Server} {around : Surroundings} {q : Request} {o : Operation}
    {state : ServiceState} (ho : Destination.of q.method q.path = .found (.operation o)) :
    s.Answers around q (around.requestId q) o state.register (s.handle around q state).1
      (s.handle around q state).2.register := by
  have hrespond (log : SecurityLog) : s.Answers around q (around.requestId q) o state.register
      (s.respond around q (around.requestId q) { state with log }).1
      (s.respond around q (around.requestId q) { state with log }).2.register := by
    unfold respond
    simp only [Cors.not_preflight_of_found ho, ho]
    exact answers_of_serve { state with log }
  exact hrespond _

/-! ## Statuses -/

namespace Response

def BlamesClient (r : Response) : Prop := 400 ≤ r.status ∧ r.status < 500

def IsSuccess (r : Response) : Prop := 200 ≤ r.status ∧ r.status < 300

end Response

theorem Refusal.blamesClient_response (r : Refusal) (requestId : String) :
    (r.response requestId).BlamesClient := by
  have hstatus : (r.response requestId).status ∈ [400, 401, 403, 422] := by
    cases r with
    | longActor => exact .head _
    | missingKey => exact .tail _ (.head _)
    | wrongKey => exact .tail _ (.tail _ (.head _))
    | badForm issues => cases issues <;> exact .tail _ (.tail _ (.tail _ (.head _)))
    | badContent trouble =>
        cases trouble with
        | unreadable => exact .head _
        | badJson position => exact .tail _ (.tail _ (.tail _ (.head _)))
  unfold Response.BlamesClient
  simp only [List.mem_cons, List.not_mem_nil, or_false] at hstatus
  omega

theorem Failure.le_status_ofFault (f : Fault) : 400 ≤ (Failure.ofFault f).status := by
  have hkind (k : RejectionKind) : 400 ≤ Failure.statusOf k := by cases k <;> decide
  cases f with
  | rejected r => exact hkind r.report.kind
  | notStored _ => exact (by decide : (400 : Int) ≤ 404)
  | searchFailed _ => exact (by decide : (400 : Int) ≤ 502)
  | badSettings _ => exact (by decide : (400 : Int) ≤ 503)
  | _ => exact (by decide : (400 : Int) ≤ 500)

/-- Only a call that is done is answered with success. -/
theorem Server.Answers.done_of_isSuccess {s : Server} {around : Surroundings} {q : Request}
    {requestId : String} {o : Operation} {g h : Register} {response : Response}
    (ha : s.Answers around q requestId o g response h) (hsuccess : response.IsSuccess) :
    ∃ actor call v t, s.receive q o = .ok (actor, call) ∧
      (call.run around s.settings.syncDefaults actor).run (Session.start g) = .ok v t ∧
      response.content = .json v ∧ h = t.working := by
  obtain ⟨-, hlt⟩ := hsuccess
  cases ha with
  | @refused r _ =>
      have hblames := (r.blamesClient_response requestId).1
      omega
  | done received run => exact ⟨_, _, _, _, received, run, rfl, rfl⟩
  | @failed _ _ f _ _ _ =>
      have hstatus : 400 ≤ ((Failure.ofFault f).response requestId).status :=
        Failure.le_status_ofFault f
      omega

end KeepApart.Http
