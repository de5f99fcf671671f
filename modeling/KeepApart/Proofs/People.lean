import KeepApart.Proofs.Comments
import KeepApart.Proofs.Merge.Values

/-!
# The people on records

A record names who updated it last, who closed it and who authorised it. The edit that makes it takes
these from its acting person, from the texts of its request or from the default for the legacy system,
or else leaves those that are stored.
-/

namespace KeepApart

open KeepApart.Action Register

variable {P : String → Prop} {g : Register} {r e : Record} {s t : Session}

/-- Whatever text storage holds for the value has the property. -/
def Json.StoredAs (P : String → Prop) (v : Json) : Prop :=
  ∀ n, Column.text v = .ok (some n) → P n

theorem Json.storedAs_null : Json.StoredAs P .null := by
  rintro n ⟨⟩

theorem Json.storedAs_str {n : String} (hn : P n) : Json.StoredAs P (.str n) := by
  rintro _ ⟨⟩
  exact hn

theorem Json.storedAs_ofText? {text : Option String} (h : ∀ n ∈ text, P n) :
    Json.StoredAs P (.ofText? text) := by
  intro n hn
  rw [Column.text_ofText?, Except.ok.injEq] at hn
  exact h n hn

structure Record.HasPeople (P : String → Prop) (r : Record) : Prop where
  updated : P r.updatedBy
  closed : ∀ n ∈ r.closedBy, P n
  authorised : ∀ n ∈ r.authorisedBy, P n

theorem Record.HasPeople.ignoresId : Record.IgnoresId (Record.HasPeople P) :=
  fun _ _ hr => ⟨hr.updated, hr.closed, hr.authorised⟩

def Edit.HasPeople (P : String → Prop) : Edit → Prop
  | create _ _ actor | amend _ _ actor _ => ∀ n ∈ actor, P n
  | close _ _ _ actor person _ | reopen _ _ _ actor person _ =>
    (∀ n ∈ actor, P n) ∧ ∀ n ∈ person, P n
  | upsert _ _ defaults q | migrate _ defaults q =>
    defaults.systemUser.StoredAs P ∧ (∀ n ∈ q.modifiedBy, P n) ∧ ∀ n ∈ q.authorisedBy, P n

/-! ## Drafts -/

theorem LegacyRequest.storedAs_textOr {text : Option String} {user : Json} (huser : user.StoredAs P)
    (htext : ∀ n ∈ text, P n) : (textOr text user).StoredAs P := by
  unfold textOr
  cases hgiven : given? text with
  | none => exact huser
  | some name => exact Json.storedAs_str (htext name (given?_eq_some.1 hgiven).1)

theorem Draft.HeldAs.hasPeople {d : Draft} (hr : d.HeldAs r) (hupdated : d.updatedBy.StoredAs P)
    (hclosed : d.closedBy.StoredAs P) (hauthorised : d.authorisedBy.StoredAs P) : r.HasPeople P where
  updated := hupdated _ hr.updatedBy
  closed n hn := hclosed n (by rw [hr.closedBy, hn])
  authorised n hn := hauthorised n (by rw [hr.authorisedBy, hn])

/-- What storage holds of a draft of the request, whoever authorised it. -/
theorem LegacyRequest.hasPeople_of_draft {q : LegacyRequest} {defaults : SyncDefaults}
    {noComment : Json} {today : Date} {d d' : Draft} (hr : d'.HeldAs r)
    (hd : q.draft defaults noComment today = .ok d)
    (hpeople : defaults.systemUser.StoredAs P ∧ (∀ n ∈ q.modifiedBy, P n) ∧
      ∀ n ∈ q.authorisedBy, P n)
    (hupdated : d'.updatedBy = d.updatedBy) (hclosed : d'.closedBy = d.closedBy)
    (hauthorised : d'.authorisedBy = d.authorisedBy ∨
      d'.authorisedBy = if d.authorisedBy.isNull then defaults.systemUser else d.authorisedBy) :
    r.HasPeople P := by
  obtain ⟨huser, hmodified, hbrought⟩ := hpeople
  obtain ⟨-, first, second, kind, -, rfl⟩ := eq_of_draft hd
  have hname : (textOr q.modifiedBy defaults.systemUser).StoredAs P := storedAs_textOr huser hmodified
  have hdrafted : (Json.ofText? q.authorisedBy).StoredAs P := Json.storedAs_ofText? hbrought
  refine hr.hasPeople (hupdated ▸ hname) ?_ ?_
  · rw [hclosed]
    dsimp only [drafted]
    split
    · exact hname
    · exact Json.storedAs_null
  · rcases hauthorised with hauthorised | hauthorised
    · exact hauthorised ▸ hdrafted
    · rw [hauthorised]
      split
      · exact huser
      · exact hdrafted

/-! ## Edits -/

/-- A record that an edit makes has people of the edit and of a stored record. A migration is not among
the edits here, since what it makes does not tell how it fills in who authorised it. -/
theorem Edit.Makes.hasPeople {c : Edit} (hc : c.HasPeople P) (hg : g.IsTable)
    (hall : ∀ e ∈ g.records, e.HasPeople P) (hmigrate : ∀ now defaults q, c ≠ .migrate now defaults q)
    (hr : c.Makes g r) : r.HasPeople P := by
  have hstored {id : Int} {e : Record} (he : g.find? id = some e) : e.HasPeople P :=
    hall e (hg.find?_eq_some_iff.1 he).1
  have hperson {name : String} {person actor : Option String}
      (hpeople : (∀ n ∈ actor, P n) ∧ ∀ n ∈ person, P n)
      (hname : (given? person <|> actor) = some name) : P name := by
    cases hgiven : given? person with
    | none =>
        rw [hgiven] at hname
        exact hpeople.1 name hname
    | some other =>
        rw [hgiven] at hname
        obtain rfl : other = name := Option.some.inj hname
        exact hpeople.2 other (given?_eq_some.1 hgiven).1
  cases hr with
  | create acting _ _ _ made =>
      obtain ⟨_, _, _, _, rfl⟩ := Proposal.eq_of_record made
      have hname := hc _ acting
      refine ⟨hname, nofun, ?_⟩
      rintro n ⟨⟩
      exact hname
  | amend acting stored made =>
      obtain rfl := Record.eq_of_amend made
      have he := hstored stored
      exact ⟨hc _ acting, he.closed, he.authorised⟩
  | close acting stored _ made =>
      obtain ⟨name, _, _, ⟨hcloser, -⟩, rfl⟩ := Record.eq_of_close made
      have hname := hperson hc acting
      obtain rfl := Option.some.inj (given?_eq_some.1 hcloser).1
      refine ⟨hname, ?_, (hstored stored).authorised⟩
      rintro n ⟨⟩
      exact hname
  | reopen acting stored _ _ made =>
      obtain rfl := Record.eq_of_reopen made
      exact ⟨hperson hc acting, nofun, (hstored stored).authorised⟩
  | insert _ drafted _ held =>
      exact LegacyRequest.hasPeople_of_draft held drafted hc rfl rfl (.inl rfl)
  | overwrite _ _ drafted _ held =>
      exact LegacyRequest.hasPeople_of_draft held drafted hc rfl rfl (.inl rfl)
  | migrate _ _ _ => exact absurd rfl (hmigrate _ _ _)

theorem Edit.hasPeople_of_run {c : Edit} (hc : c.HasPeople P) (hs : s.working.IsTable)
    (hall : ∀ e ∈ s.working.records, e.HasPeople P) (h : c.run.run s = .ok r t) :
    ∀ e ∈ t.working.records, e.HasPeople P := by
  have hmade (hmigrate : ∀ now defaults q, c ≠ .migrate now defaults q) :
      ∀ e ∈ t.working.records, e.HasPeople P := by
    obtain ⟨q, hq, hstores⟩ := makes_of_run hs h
    exact hstores.all .ignoresId hall (hq.hasPeople hc hs hall hmigrate)
  cases c with
  | migrate now defaults q =>
      simp only [Edit.run, bind_eq_ok, pure_eq_ok] at h
      obtain ⟨v, _, hrun, rfl, rfl⟩ := h
      obtain ⟨d, r, hd, -, hr, hstores⟩ := Sync.stores_of_migrate hs hrun
      refine hstores.all .ignoresId hall ?_
      exact LegacyRequest.hasPeople_of_draft hr hd hc rfl rfl (.inr rfl)
  | _ =>
      apply hmade
      rintro _ _ _ ⟨⟩

/-! ## Merges -/

/-- A merge puts nobody else on a record. -/
theorem Merge.ValueOutcome.hasPeople {old new : Json} {h h' : Register} {q : Record}
    {m m' : MergeReport} (ho : Merge.ValueOutcome old new h q m m' h') (hq : q.HasPeople P)
    (hall : ∀ e ∈ h.records, e.HasPeople P) : ∀ e ∈ h'.records, e.HasPeople P := by
  cases ho with
  | collapsed _ _ | superseded _ _ _ _ _ => exact fun e he => hall e (mem_remove.1 he).1
  | renamed _ _ _ stores _ =>
      exact stores.all .ignoresId hall ⟨hq.updated, hq.closed, hq.authorised⟩

end KeepApart
