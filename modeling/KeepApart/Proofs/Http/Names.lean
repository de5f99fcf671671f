import KeepApart.Proofs.Atomicity
import KeepApart.Proofs.Http.Calls
import KeepApart.Proofs.Http.Forms
import KeepApart.Proofs.People
import KeepApart.Proofs.Settings

/-!
# Names that requests bring

Whoever a request puts on a record comes from its header, from a field of its form or from the
settings, and each of these is checked before the register is looked at.
-/

namespace KeepApart

def FitsName (n : String) : Prop := 1 ≤ n.length ∧ n.length ≤ 60

theorem FitsName.of_ne {n : String} (hne : n ≠ "") (hlong : n.length ≤ 60) : FitsName n := by
  refine ⟨?_, hlong⟩
  have hlength : n.length ≠ 0 := mt String.length_eq_zero_iff.1 hne
  omega

/-! ## Settings -/

namespace Settings

variable {s : Settings}

theorem fitsName_of_checkUser {user : String} (h : checkUser (.str user) = .ok ()) : FitsName user := by
  obtain ⟨hspoken, n, hlength, hlimit⟩ := checkUser_eq_ok h
  obtain rfl : user.length = n := Except.ok.inj hlength
  refine .of_ne ?_ hlimit
  rintro rfl
  cases hspoken

/-- The name under which the legacy system writes was checked when the settings were loaded. One that is
no text is not stored. -/
theorem storedAs_of_load {source : SettingsSource} (h : load source = .ok s)
    (huser : (s.value .systemUser).IsString) : (s.value .systemUser).StoredAs FitsName := by
  have hcontent {content : Yaml.Value} (h : ofContent content >>= check = .ok s) :
      (s.value .systemUser).StoredAs FitsName := by
    obtain ⟨t, -, hcheck⟩ := except_bind_eq_ok.1 h
    obtain ⟨rfl, -, hchecked, -⟩ := check_eq_ok.1 hcheck
    rcases huser with ⟨user, huser⟩ | ⟨codes, huser⟩
    · rw [Yaml.Value.eq_str_of_json huser] at hchecked
      rw [huser]
      exact Json.storedAs_str (fitsName_of_checkUser hchecked)
    · rw [huser]
      rintro n ⟨⟩
  unfold load at h
  split at h
  · obtain rfl := Except.ok.inj h
    exact Json.storedAs_str ⟨by decide, by decide⟩
  · exact hcontent h
  · split at h
    · cases h
    · cases h
    · exact hcontent h

end Settings

namespace Http

open Schema Schema.Checked

variable {fields : List (String × Json)} {call : Call} {n : String}

/-! ## Forms -/

theorem fitsName_of_optional {field : String}
    (h : optional fields field (nullable name) none = accepted (some n)) : FitsName n := by
  obtain ⟨v, hv⟩ := exists_of_optional h
  obtain ⟨-, hne, hlong⟩ := name_eq_accepted.1 hv
  exact .of_ne hne hlong

theorem actingPerson_fitsName {q : Request} (h : actingPerson q = .ok (some n)) : FitsName n := by
  unfold actingPerson at h
  split at h
  · cases h
  · dsimp only at h
    split at h
    · cases h
    · split at h
      · cases h
      · rename_i hne hlong
        cases h
        exact .of_ne (mt String.isEmpty_iff.2 hne) (Nat.not_lt.1 hlong)

namespace Form

theorem fitsName_of_closing {turn : Turn} (h : closing fields = accepted turn) :
    ∀ n ∈ turn.person, FitsName n := by
  simp only [closing, seq_eq_accepted, map_eq_accepted, existsAndEq, and_true] at h
  obtain ⟨_, _, _, ⟨-, hperson⟩, -, rfl⟩ := h
  rintro n rfl
  exact fitsName_of_optional hperson

theorem fitsName_of_reopening {turn : Turn} (h : reopening fields = accepted turn) :
    ∀ n ∈ turn.person, FitsName n := by
  simp only [reopening, seq_eq_accepted, map_eq_accepted, existsAndEq, and_true] at h
  obtain ⟨_, _, _, ⟨-, hperson⟩, -, rfl⟩ := h
  rintro n rfl
  exact fitsName_of_optional hperson

theorem fitsName_of_legacy {id : Checked (Option Int)} {q : LegacyRequest}
    (h : legacy fields id = accepted q) :
    (∀ n ∈ q.modifiedBy, FitsName n) ∧ ∀ n ∈ q.authorisedBy, FitsName n := by
  simp only [legacy, seq_eq_accepted, map_eq_accepted, existsAndEq, and_true, and_assoc] at h
  obtain ⟨_, _, _, _, _, _, _, _, _, _, _, -, -, -, -, -, -, hauthorised, hmodified, -, -, -, rfl⟩ := h
  constructor
  · rintro n rfl
    exact fitsName_of_optional hmodified
  · rintro n rfl
    exact fitsName_of_optional hauthorised

end Form

def Call.HasPeople (P : String → Prop) : Call → Prop
  | close _ turn | reopen _ turn => ∀ n ∈ turn.person, P n
  | upsert q | migrate q => (∀ n ∈ q.modifiedBy, P n) ∧ ∀ n ∈ q.authorisedBy, P n
  | _ => True

theorem Operation.Asks.hasPeople {o : Operation} (h : o.Asks call) : call.HasPeople FitsName := by
  cases h with
  | close form =>
      obtain ⟨fields, hform⟩ := form
      exact Form.fitsName_of_closing hform
  | reopen form =>
      obtain ⟨fields, hform⟩ := form
      exact Form.fitsName_of_reopening hform
  | upsert form | migrate form =>
      obtain ⟨fields, hform⟩ := form
      exact Form.fitsName_of_legacy hform
  | _ => trivial

/-! ## What is stored -/

theorem Call.hasPeople_of_edit? {around : Surroundings} {defaults : SyncDefaults}
    {actor : Option String} {P : String → Prop} {c : Edit}
    (hc : call.edit? around defaults actor = some c) (hcall : call.HasPeople P)
    (hactor : ∀ n ∈ actor, P n) (huser : defaults.systemUser.StoredAs P) : c.HasPeople P := by
  cases call with
  | create _ | amend _ _ =>
      cases hc
      exact hactor
  | close _ _ | reopen _ _ =>
      cases hc
      exact ⟨hactor, hcall⟩
  | upsert _ | migrate _ =>
      cases hc
      exact ⟨huser, hcall⟩
  | _ => cases hc

namespace Server

variable {s : Server} {q : Request} {actor : Option String}

theorem hasPeople_of_receives (h : s.Receives q actor call) :
    (∀ n ∈ actor, FitsName n) ∧ call.HasPeople FitsName := by
  obtain ⟨o, -, h⟩ := h
  obtain ⟨body, -, hactor, -, hcheck⟩ := receive_eq_ok.1 h
  refine ⟨?_, (Operation.asks_of_check hcheck).hasPeople⟩
  rintro n rfl
  split at hactor
  · exact actingPerson_fitsName hactor
  · cases hactor

/-- Whatever is asked for, everybody on a stored record has a name of 1 to 60 characters. -/
theorem names_fit {source : SettingsSource} (hload : Settings.load source = .ok s.settings)
    (huser : (s.settings.value .systemUser).IsString) (requests : List (Surroundings × Request)) :
    ∀ r ∈ (s.served requests).register.records, (1 ≤ r.updatedBy.length ∧ r.updatedBy.length ≤ 60) ∧
      (∀ n ∈ r.closedBy, 1 ≤ n.length ∧ n.length ≤ 60) ∧
      ∀ n ∈ r.authorisedBy, 1 ≤ n.length ∧ n.length ≤ 60 := by
  let I (g : Register) : Prop := g.IsTable ∧ ∀ r ∈ g.records, r.HasPeople FitsName
  have hserved : I (s.served requests).register := by
    refine served_keeps requests ⟨Register.isTable_empty, List.forall_mem_nil _⟩ ?_
    intro q _ actor call hreceived g v t ⟨hg, hall⟩ hrun
    obtain ⟨hactor, hcall⟩ := hasPeople_of_receives hreceived
    refine (Call.effect_of_run hrun).keeps hg ⟨hg, hall⟩ ?_ ?_
    · intro c r hc hmade
      have hpeople : c.HasPeople FitsName :=
        Call.hasPeople_of_edit? hc hcall hactor (Settings.storedAs_of_load hload huser)
      obtain ⟨_, -, hstores⟩ := Edit.makes_of_run hg hmade
      exact ⟨hstores.update.table, Edit.hasPeople_of_run hpeople hg hall hmade⟩
    · rintro old new q m h m' h' hq ho - ⟨hh, hall'⟩
      exact ⟨ho.isTable hh, ho.hasPeople (hall q hq) hall'⟩
  intro r hr
  have hpeople := hserved.2 r hr
  exact ⟨hpeople.updated, hpeople.closed, hpeople.authorised⟩

/-- A migration that names nobody puts the default of the settings on the record. -/
theorem names_fit_migrated :
    let s : Server := { settings := .defaults, name := "localhost" }
    let q : Request :=
      { method := "POST"
        path := "/api/v1/migrate"
        headers := [("Content-Type", "application/json")]
        content := "\x7b\"firstPrisonerNumber\":\"A1234BC\",\"firstPrisonerReason\":\"VIC\"," ++
          "\"secondPrisonerNumber\":\"B2345CD\",\"secondPrisonerReason\":\"PER\"," ++
          "\"restrictionType\":\"WING\",\"effectiveFromDate\":\"2020-01-01\"\x7d" }
    let around : Surroundings := ⟨⟨Moment.earliest, none⟩, Moment.earliest, .answered, "7", ""⟩
    ∃ r ∈ (s.served [(around, q)]).register.records, r.updatedBy = "NON_ASSOCIATIONS_API" ∧
      (1 ≤ r.updatedBy.length ∧ r.updatedBy.length ≤ 60) ∧
      (∀ n ∈ r.closedBy, 1 ≤ n.length ∧ n.length ≤ 60) ∧
      ∀ n ∈ r.authorisedBy, 1 ≤ n.length ∧ n.length ≤ 60 := by
  intro s q around
  have hload : Settings.load .missing = .ok s.settings := rfl
  have huser : (s.settings.value .systemUser).IsString := .inl ⟨"NON_ASSOCIATIONS_API", rfl⟩
  obtain ⟨r, hr, hupdated⟩ : ∃ r ∈ (s.served [(around, q)]).register.records,
      r.updatedBy = "NON_ASSOCIATIONS_API" := by decide +kernel
  exact ⟨r, hr, hupdated, names_fit hload huser [(around, q)] r hr⟩

end Server

end Http

end KeepApart
