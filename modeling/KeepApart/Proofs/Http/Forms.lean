import KeepApart.Http.Form
import KeepApart.Proofs.Schema

/-!
# What forms ask for

A request for an operation is a call of the same kind, made of the record that the path names and of what
the form of the operation accepts.
-/

namespace KeepApart.Http

open Schema Schema.Checked

variable {fields : List (String × Json)} {call : Call}

/-- Content that a form accepts is an object. -/
theorem Body.exists_of_check {α : Type} {form : List (String × Json) → Checked α} {body : Body}
    {a : α} (h : body.check form = accepted a) : ∃ fields, form fields = accepted a := by
  unfold check at h
  split at h
  · cases h
  · exact ⟨_, h⟩
  · exact absurd h refuse_ne_accepted
  · cases h

namespace Form

theorem exists_of_group (h : group fields = accepted call) : ∃ numbers o, call = .between numbers o := by
  simp only [group, seq_eq_accepted, map_eq_accepted, existsAndEq, and_true] at h
  obtain ⟨_, _, _, _, -, -, rfl⟩ := h
  exact ⟨_, _, rfl⟩

theorem exists_of_event (h : event fields = accepted call) : ∃ e, call = .event e := by
  simp only [event, seq_eq_accepted, map_eq_accepted, existsAndEq, and_true] at h
  obtain ⟨_, _, _, -, -, rfl⟩ := h
  exact ⟨_, rfl⟩

theorem numbers_of_merge (h : merge fields = accepted call) : ∃ old new w,
    call = .merge old new w ∧ isPrisonerNumber old = true ∧ isPrisonerNumber new = true := by
  simp only [merge, seq_eq_accepted, map_eq_accepted, existsAndEq, and_true, and_assoc] at h
  obtain ⟨_, _, new, old, hold, hnew, -, -, rfl⟩ := h
  exact ⟨old, new, _, rfl, isPrisonerNumber_of_required hold, isPrisonerNumber_of_required hnew⟩

end Form

namespace Operation

/-- What a request for an operation calls for when it is accepted. -/
inductive Asks : Operation → Call → Prop where
  | constants : Asks .constants .constants
  | create {p : Proposal} (form : ∃ fields, Form.proposal fields = accepted p) : Asks .create (.create p)
  | between {numbers : List String} {o : ListOptions} : Asks .between (.between numbers o)
  | find {id : String} {n : Int} (path : Form.recordId id = accepted n) : Asks (.find id) (.find n)
  | amend {id : String} {n : Int} {a : Amendment} (form : ∃ fields, Form.amendment fields = accepted a) :
      Asks (.amend id) (.amend n a)
  | close {id : String} {n : Int} {turn : Turn} (form : ∃ fields, Form.closing fields = accepted turn) :
      Asks (.close id) (.close n turn)
  | reopen {id : String} {n : Int} {turn : Turn} (form : ∃ fields, Form.reopening fields = accepted turn) :
      Asks (.reopen id) (.reopen n turn)
  | ofPrisoner {number : String} {o : ListOptions} : Asks (.ofPrisoner number) (.ofPrisoner number o)
  | legacyDetails {number : String} {currentPrisonOnly excludeInactive : Bool} :
      Asks (.legacyDetails number) (.legacyDetails number currentPrisonOnly excludeInactive)
  | upsert {q : LegacyRequest} (form : ∃ fields, Form.update fields = accepted q) : Asks .upsert (.upsert q)
  | migrate {q : LegacyRequest} (form : ∃ fields, Form.migration fields = accepted q) :
      Asks .migrate (.migrate q)
  | merge {old new : String} {w : Window} (form : ∃ fields, Form.merge fields = accepted (.merge old new w)) :
      Asks .merge (.merge old new w)
  | event {e : PrisonerEvent} : Asks .event (.event e)

theorem asks_of_check {q : Request} {body : Body} {o : Operation}
    (h : o.check q body = accepted call) : o.Asks call := by
  cases o with
  | constants =>
      cases h
      exact .constants
  | create =>
      obtain ⟨p, hbody, rfl⟩ := map_eq_accepted.1 h
      obtain ⟨fields, hform⟩ := Body.exists_of_check hbody
      exact .create ⟨fields, hform⟩
  | between =>
      obtain ⟨fields, hform⟩ := Body.exists_of_check h
      obtain ⟨numbers, o, rfl⟩ := Form.exists_of_group hform
      exact .between
  | find id =>
      obtain ⟨n, hpath, rfl⟩ := map_eq_accepted.1 h
      exact .find hpath
  | amend id =>
      simp only [check, seq_eq_accepted, map_eq_accepted, existsAndEq, and_true] at h
      obtain ⟨_, _, -, hbody, rfl⟩ := h
      obtain ⟨fields, hform⟩ := Body.exists_of_check hbody
      exact .amend ⟨fields, hform⟩
  | close id =>
      simp only [check, seq_eq_accepted, map_eq_accepted, existsAndEq, and_true] at h
      obtain ⟨_, _, -, hbody, rfl⟩ := h
      obtain ⟨fields, hform⟩ := Body.exists_of_check hbody
      exact .close ⟨fields, hform⟩
  | reopen id =>
      simp only [check, seq_eq_accepted, map_eq_accepted, existsAndEq, and_true] at h
      obtain ⟨_, _, -, hbody, rfl⟩ := h
      obtain ⟨fields, hform⟩ := Body.exists_of_check hbody
      exact .reopen ⟨fields, hform⟩
  | ofPrisoner number =>
      obtain ⟨o, -, rfl⟩ := map_eq_accepted.1 h
      exact .ofPrisoner
  | legacyDetails number =>
      simp only [check, seq_eq_accepted, map_eq_accepted, existsAndEq, and_true] at h
      obtain ⟨_, _, -, -, rfl⟩ := h
      exact .legacyDetails
  | upsert =>
      obtain ⟨q, hbody, rfl⟩ := map_eq_accepted.1 h
      obtain ⟨fields, hform⟩ := Body.exists_of_check hbody
      exact .upsert ⟨fields, hform⟩
  | migrate =>
      obtain ⟨q, hbody, rfl⟩ := map_eq_accepted.1 h
      obtain ⟨fields, hform⟩ := Body.exists_of_check hbody
      exact .migrate ⟨fields, hform⟩
  | merge =>
      obtain ⟨fields, hform⟩ := Body.exists_of_check h
      obtain ⟨old, new, w, rfl, -⟩ := Form.numbers_of_merge hform
      exact .merge ⟨fields, hform⟩
  | event =>
      obtain ⟨fields, hform⟩ := Body.exists_of_check h
      obtain ⟨e, rfl⟩ := Form.exists_of_event hform
      exact .event

end Operation

end KeepApart.Http
