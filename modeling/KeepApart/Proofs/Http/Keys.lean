import KeepApart.Proofs.Http.Answers

/-!
# Requests without a key

Receiving a request reads neither the register nor anything else that surrounds the request. A request
without the key that its operation needs is not received, so its answer tells nothing of the register.
-/

namespace KeepApart.Http

namespace Server

variable {s : Server} {q : Request} {o : Operation}

theorem needsKey_iff :
    s.needsKey o = true ↔ s.key ≠ "" ∧ (o.isReading = false ∨ s.settings.readKeyRequired = true) := by
  simp [needsKey]

theorem checkKey_eq_ok {u : Unit} :
    s.checkKey q o = .ok u ↔ (s.needsKey o = true → q.header? "X-API-Key" = some s.key) := by
  unfold checkKey
  by_cases hneeds : s.needsKey o = true
  · have hset : s.key ≠ "" := (needsKey_iff.1 hneeds).1
    rw [if_neg (by simp [hneeds])]
    cases hgiven : q.header? "X-API-Key" with
    | none => simp [hneeds]
    | some key =>
        by_cases hkey : key = s.key
        · simp [hkey, hset]
        · by_cases hempty : key = "" <;> simp [hneeds, hempty, hkey, hset.symm]
  · simp [hneeds]

/-- A request without the key that its operation needs is not received, whatever else it brings. -/
theorem exists_refusal_without_key (hneeds : s.needsKey o = true)
    (hgiven : q.header? "X-API-Key" ≠ some s.key) : ∃ r, s.receive q o = .error r := by
  cases hreceive : s.receive q o with
  | error r => exact ⟨r, rfl⟩
  | ok received =>
      obtain ⟨actor, call⟩ := received
      obtain ⟨-, -, -, hcheck, -⟩ := receive_eq_ok.1 hreceive
      exact absurd (checkKey_eq_ok.1 hcheck hneeds) hgiven

theorem handle_of_refusal {r : Refusal} (ho : Destination.of q.method q.path = .found (.operation o))
    (hr : s.receive q o = .error r) (around : Surroundings) (state : ServiceState) :
    (s.handle around q state).1 = r.response (around.requestId q) ∧
      (s.handle around q state).2.register = state.register := by
  have hanswers : s.Answers around q (around.requestId q) o state.register
      (s.handle around q state).1 (s.handle around q state).2.register := answers_of_handle ho
  generalize (s.handle around q state).1 = response at hanswers ⊢
  generalize (s.handle around q state).2.register = after at hanswers ⊢
  cases hanswers with
  | refused refusal =>
      obtain rfl := Except.error.inj (hr.symm.trans refusal)
      exact ⟨rfl, rfl⟩
  | done received _ | failed received _ =>
      rw [hr] at received
      cases received

/-- Without the key nothing is learned or changed: whatever is stored, and whatever else surrounds the
request, it gets one and the same answer, which blames the client, and the register stays as it is. -/
theorem nothing_without_key (hset : s.key ≠ "")
    (hguarded : o.isReading = false ∨ s.settings.readKeyRequired = true)
    (ho : Destination.of q.method q.path = .found (.operation o))
    (hgiven : q.header? "X-API-Key" ≠ some s.key) {around around' : Surroundings}
    (hdrawn : around'.drawnId = around.drawnId) (state state' : ServiceState) :
    (s.handle around' q state').1 = (s.handle around q state).1 ∧
      (s.handle around q state).1.BlamesClient ∧
      (s.handle around q state).2.register = state.register := by
  have hneeds : s.needsKey o = true := needsKey_iff.2 ⟨hset, hguarded⟩
  obtain ⟨r, hr⟩ := exists_refusal_without_key hneeds hgiven
  have hid : around'.requestId q = around.requestId q := by
    rw [Surroundings.requestId, Surroundings.requestId, hdrawn]
  obtain ⟨hresponse, hregister⟩ := handle_of_refusal ho hr around state
  obtain ⟨hresponse', -⟩ := handle_of_refusal ho hr around' state'
  refine ⟨?_, ?_, hregister⟩
  · rw [hresponse, hresponse', hid]
  · rw [hresponse]
    exact r.blamesClient_response _

/-- A wrong key gets one answer, whether the record that is asked for is stored or not. -/
theorem nothing_without_key_stored_or_not :
    let s : Server := { settings := .defaults, name := "localhost", key := "key" }
    let q : Request :=
      { method := "GET", path := "/api/v1/non-associations/1", headers := [("x-api-key", "KEY")] }
    let around : Surroundings := ⟨⟨Moment.earliest, none⟩, Moment.earliest, .answered, "7", ""⟩
    let state : ServiceState := { register := ⟨[Merge.plain 1 "A1234BC" "B2345CD"]⟩ }
    (s.handle around q {}).1 = (s.handle around q state).1 ∧
      (s.handle around q state).1.BlamesClient ∧
      (s.handle around q state).2.register.records.length = 1 := by
  intro s q around state
  have ho : Destination.of q.method q.path = .found (.operation (.find "1")) := by decide
  have hset : s.key ≠ "" := by decide
  have hgiven : q.header? "X-API-Key" ≠ some s.key := by decide
  have hdrawn : around.drawnId = around.drawnId := rfl
  obtain ⟨hsame, hblames, hregister⟩ :=
    nothing_without_key hset (.inr rfl) ho hgiven hdrawn state {}
  refine ⟨hsame, hblames, ?_⟩
  rw [hregister]
  rfl

end Server

end KeepApart.Http
