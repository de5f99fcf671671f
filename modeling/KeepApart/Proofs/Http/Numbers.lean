import KeepApart.Proofs.Http.Calls
import KeepApart.Proofs.Http.Forms
import KeepApart.Proofs.Numbers

/-!
# Prisoner numbers that requests bring

Forms that name prisoners check the numbers. An event names them among its free information, which no
form checks, and that is the one way by which another text becomes the number of a stored record.
-/

namespace KeepApart.Http

open Schema Schema.Checked

variable {fields : List (String × Json)} {call : Call} {n : String}

/-! ## Forms -/

namespace Form

theorem numbers_of_proposal {p : Proposal} (h : proposal fields = accepted p) :
    isPrisonerNumber p.firstNumber = true ∧ isPrisonerNumber p.secondNumber = true := by
  simp only [proposal, seq_eq_accepted, map_eq_accepted, pure_eq_accepted, existsAndEq, and_true,
    true_and, and_assoc] at h
  obtain ⟨_, _, _, _, _, _, _, hfirst, -, hsecond, -, -, -, -, rfl⟩ := h
  exact ⟨isPrisonerNumber_of_required hfirst, isPrisonerNumber_of_required hsecond⟩

theorem numbers_of_legacy {id : Checked (Option Int)} {q : LegacyRequest}
    (h : legacy fields id = accepted q) :
    isPrisonerNumber q.firstNumber = true ∧ isPrisonerNumber q.secondNumber = true := by
  simp only [legacy, seq_eq_accepted, map_eq_accepted, existsAndEq, and_true, and_assoc] at h
  obtain ⟨_, _, _, _, _, _, _, _, _, _, _, hfirst, -, hsecond, -, -, -, -, -, -, -, -, rfl⟩ := h
  exact ⟨isPrisonerNumber_of_required hfirst, isPrisonerNumber_of_required hsecond⟩

end Form

def Call.numbers : Call → List String
  | .create p => [p.firstNumber, p.secondNumber]
  | .upsert q | .migrate q => [q.firstNumber, q.secondNumber]
  | .merge old new _ => [old, new]
  | _ => []

theorem Operation.Asks.numbers {o : Operation} (h : o.Asks call) :
    ∀ n ∈ call.numbers, isPrisonerNumber n = true := by
  have hpair {a b : String} (h : isPrisonerNumber a = true ∧ isPrisonerNumber b = true) :
      ∀ n ∈ [a, b], isPrisonerNumber n = true := by simpa using h
  cases h with
  | create form =>
      obtain ⟨fields, hform⟩ := form
      exact hpair (Form.numbers_of_proposal hform)
  | upsert form | migrate form =>
      obtain ⟨fields, hform⟩ := form
      exact hpair (Form.numbers_of_legacy hform)
  | merge form =>
      obtain ⟨fields, hform⟩ := form
      obtain ⟨old, new, w, heq, hnumbers⟩ := Form.numbers_of_merge hform
      cases heq
      exact hpair hnumbers
  | _ => exact List.forall_mem_nil _

namespace Server

variable {s : Server} {q : Request} {actor : Option String}

theorem numbers_of_receives (h : s.Receives q actor call) :
    ∀ n ∈ call.numbers, isPrisonerNumber n = true := by
  obtain ⟨o, -, h⟩ := h
  obtain ⟨body, -, -, -, hcheck⟩ := receive_eq_ok.1 h
  exact (Operation.asks_of_check hcheck).numbers

/-- The request is an event that brings this text as the new number of a prisoner. -/
def BringsByEvent (s : Server) (q : Request) (n : String) : Prop :=
  ∃ actor e, s.Receives q actor (.event e) ∧ e.Brings n

end Server

/-! ## What is stored -/

theorem Call.numbers_of_edit? {around : Surroundings} {defaults : SyncDefaults}
    {actor : Option String} {c : Edit} {first second : String}
    (hc : call.edit? around defaults actor = some c) (hpair : c.pair? = some (first, second)) :
    first ∈ call.numbers ∧ second ∈ call.numbers := by
  cases call with
  | create p | migrate q =>
      cases hc
      cases hpair
      simp [numbers]
  | upsert q =>
      cases hc
      obtain ⟨-, hpair⟩ := Option.ite_none_right_eq_some.1 hpair
      cases hpair
      simp [numbers]
  | amend id a | close id turn | reopen id turn =>
      cases hc
      cases hpair
  | _ => cases hc

/-- What a call leaves keeps a property of numbers, if the numbers in its form have it and so has the one
that an event brings. -/
theorem Call.Effect.hasNumbers {around : Surroundings} {defaults : SyncDefaults}
    {actor : Option String} {s t : Session} {v : Json} {P : String → Prop}
    (h : call.Effect around defaults actor s t v) (hs : s.HasNumbers P)
    (hform : ∀ n ∈ call.numbers, P n) (hevent : ∀ e, call = .event e → ∀ n, e.Brings n → P n) :
    t.HasNumbers P := by
  cases h with
  | edit made run =>
      refine hs.of_edit ?_ run
      intro first second hpair
      obtain ⟨hfirst, hsecond⟩ := numbers_of_edit? made hpair
      exact ⟨hform first hfirst, hform second hsecond⟩
  | @merge old new w m run => exact Merge.hasNumbers_of_run (hform new (by simp [numbers])) hs run
  | @event e outcome v run shown =>
      refine PrisonerEvent.hasNumbers_of_apply (hevent e rfl) hs run ?_
      rintro m rfl
      exact (View.isPlain_of_eventOutcome shown).1
  | reading _ kept =>
      refine ⟨?_, ?_⟩
      · rw [kept]
        exact hs.table
      · rw [kept]
        exact hs.numbers

end KeepApart.Http

namespace KeepApart

open KeepApart.Http Schema

/-- Whatever is asked for, every number in storage is one letter, four digits and two letters, or it came
by an event that was asked to put just that text in the place of a number. -/
theorem numbers_well_formed_or_by_event (s : Server) (requests : List (Surroundings × Request)) :
    (s.served requests).register.HasNumbers fun n =>
      isPrisonerNumber n = true ∨ ∃ q ∈ requests, s.BringsByEvent q.2 n := by
  let P (n : String) : Prop := isPrisonerNumber n = true ∨ ∃ q ∈ requests, s.BringsByEvent q.2 n
  have hserved : (Session.start (s.served requests).register).HasNumbers P := by
    refine Server.served_keeps (I := fun g => (Session.start g).HasNumbers P) requests ?_ ?_
    · exact ⟨Register.isTable_empty, List.forall_mem_nil _⟩
    · intro q hq actor call hreceived g v t hg hrun
      have hafter : t.HasNumbers P := by
        refine (Call.effect_of_run hrun).hasNumbers hg ?_ ?_
        · intro n hn
          exact .inl (Server.numbers_of_receives hreceived n hn)
        · rintro e rfl n hn
          exact .inr ⟨q, hq, actor, e, hreceived, hn⟩
      exact ⟨hafter.table, hafter.numbers⟩
  exact hserved.numbers

/-- The form of an event takes any text for a number, and the call then gives it to a stored record. -/
theorem numbers_well_formed_or_by_event_unchecked :
    ∃ (fields : List (String × Json)) (call : Call) (around : Surroundings) (s t : Session) (v : Json),
      Form.event fields = .accepted call ∧ (call.run around {} none).run s = .ok v t ∧
      s.working.records.map Record.pair = [("A1234BC", "B2345CD")] ∧
      t.working.records.map Record.pair = [("not a number", "B2345CD")] ∧
      isPrisonerNumber "A1234BC" = true ∧ isPrisonerNumber "not a number" = false := by
  let fields : List (String × Json) :=
    [("eventType", .str PrisonerEvent.mergedKind),
      ("additionalInformation",
        .obj [("removedNomsNumber", .str "A1234BC"), ("nomsNumber", .str "not a number")])]
  let around : Surroundings := ⟨⟨Moment.earliest, none⟩, Moment.earliest, .answered, "", ""⟩
  let s : Session := .start ⟨[Merge.plain 1 "A1234BC" "B2345CD"]⟩
  refine ⟨fields, _, around, s, _, _, rfl, rfl, rfl, rfl, ?_, ?_⟩ <;> decide

end KeepApart
