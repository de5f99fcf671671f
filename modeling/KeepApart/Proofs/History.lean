import KeepApart.Merge
import KeepApart.Proofs.Command
import KeepApart.Proofs.Sync

/-!
# Histories

A history is a list of calls, each of which runs in a scope of its own: kept when it succeeds, taken
back when it fails. An edit is a call that stores one record; a merge stores and removes many.
-/

namespace KeepApart

open KeepApart.Action

/-- A call that stores one record. An upsert has two readings of the clock. -/
inductive Edit where
  | create (ctx : Context) (p : Proposal) (actor : Option String)
  | amend (ctx : Context) (id : Int) (actor : Option String) (a : Amendment)
  | close (ctx : Context) (id : Int) (reason actor closer : Option String) (at? : Option Moment)
  | reopen (ctx : Context) (id : Int) (reason actor reopener : Option String) (at? : Option Moment)
  | upsert (judged updated : Moment) (defaults : SyncDefaults) (q : LegacyRequest)
  | migrate (now : Moment) (defaults : SyncDefaults) (q : LegacyRequest)

def Edit.run : Edit → Action Record
  | create ctx p actor => Command.create ctx p actor
  | amend ctx id actor a => Command.amend ctx id actor a
  | close ctx id reason actor closer at? => Command.close ctx id reason actor closer at?
  | reopen ctx id reason actor reopener at? => Command.reopen ctx id reason actor reopener at?
  | upsert judged updated defaults q => do
    return (← Sync.upsertOn judged.date updated defaults q).record
  | migrate now defaults q => do return (← Sync.migrate now defaults q).record

instance {P : Session → Prop} [IsInvariant P] (e : Edit) : Keeps P e.run := by
  cases e <;> unfold Edit.run <;> infer_instance

inductive Step where
  | edit (e : Edit)
  | merge (old new : String) (w : Window)

namespace Register

def after (g : Register) : Step → Register
  | .edit e => (Storage.scope e.run g).2
  | .merge old new w => (Storage.scope (Merge.run old new w) g).2

/-- The register that a history leaves behind, from an empty one. -/
def reached (steps : List Step) : Register := steps.foldl after empty

theorem reached_concat (steps : List Step) (step : Step) :
    reached (steps ++ [step]) = (reached steps).after step := by
  rw [reached, reached, List.foldl_append]
  rfl

end Register

/-! ## What edits make -/

/-- Over this register, the edit passes its checks and makes this record. A new one has no id yet. -/
inductive Edit.Makes (g : Register) : Edit → Record → Prop where
  | create {ctx : Context} {p : Proposal} {actor : Option String} {name : String} {r : Record}
      (acting : actor = some name) (spoken : Text.isBlankText p.comment = false)
      (differ : p.firstNumber ≠ p.secondNumber)
      (alone : g.NoOtherOpen none p.firstNumber p.secondNumber)
      (made : p.record name ctx.now = .ok r) : Makes g (.create ctx p actor) r
  | amend {ctx : Context} {id : Int} {actor : Option String} {a : Amendment} {name : String}
      {e r : Record} (acting : actor = some name) (stored : g.find? id = some e)
      (made : e.amend name ctx.now a = .ok r) : Makes g (.amend ctx id actor a) r
  | close {ctx : Context} {id : Int} {reason actor closer : Option String} {at? : Option Moment}
      {name : String} {e r : Record} (acting : (given? closer <|> actor) = some name)
      (stored : g.find? id = some e) (opened : e.isClosed = false)
      (made : e.close name reason (at?.getD ctx.now) = .ok r) :
      Makes g (.close ctx id reason actor closer at?) r
  | reopen {ctx : Context} {id : Int} {reason actor reopener : Option String} {at? : Option Moment}
      {name : String} {e r : Record} (acting : (given? reopener <|> actor) = some name)
      (stored : g.find? id = some e) (closed : e.isOpen = false)
      (alone : g.NoOtherOpen e.id e.firstNumber e.secondNumber)
      (made : e.reopen (at?.getD ctx.now) name (reason.getD "") = .ok r) :
      Makes g (.reopen ctx id reason actor reopener at?) r
  | insert {judged updated : Moment} {defaults : SyncDefaults} {q : LegacyRequest} {d : Draft}
      {r : Record} (new : q.id = none)
      (drafted : q.draft defaults defaults.noComment judged.date = .ok d)
      (alone : d.isClosed = false → g.NoOtherOpen d.id q.firstNumber q.secondNumber)
      (held : d.HeldAs r) : Makes g (.upsert judged updated defaults q) r
  | overwrite {judged updated : Moment} {defaults : SyncDefaults} {q : LegacyRequest} {d : Draft}
      {id : Int} {e r : Record} (named : q.id = some id) (stored : g.find? id = some e)
      (drafted : q.draft defaults defaults.noComment judged.date = .ok d)
      (alone : d.isClosed = false → g.NoOtherOpen e.id e.firstNumber e.secondNumber)
      (held : (LegacyRequest.restated e d defaults updated).HeldAs r) :
      Makes g (.upsert judged updated defaults q) r
  | migrate {now : Moment} {defaults : SyncDefaults} {q : LegacyRequest} {d : Draft} {a : Json}
      {r : Record} (drafted : q.draft defaults defaults.migratedNoComment now.date = .ok d)
      (alone : d.isClosed = false → g.NoOtherOpen d.id q.firstNumber q.secondNumber)
      (held : { d with authorisedBy := a }.HeldAs r) : Makes g (.migrate now defaults q) r

theorem Edit.makes_of_run {c : Edit} {s t : Session} {v : Record} (hg : s.working.IsTable)
    (h : c.run.run s = .ok v t) :
    ∃ r, c.Makes s.working r ∧ s.working.Stores r v t.working := by
  cases c with
  | create ctx p actor =>
      obtain ⟨name, r, hname, hspoken, hdiffer, halone, hr, hstores⟩ :=
        Command.stores_of_create hg h
      exact ⟨r, .create hname hspoken hdiffer halone hr, hstores⟩
  | amend ctx id actor a =>
      obtain ⟨e, name, r, hname, he, hr, hstores⟩ := Command.stores_of_amend hg h
      exact ⟨r, .amend hname he hr, hstores⟩
  | close ctx id reason actor closer at? =>
      obtain ⟨e, name, r, he, hopen, hname, hr, hstores⟩ := Command.stores_of_close hg h
      exact ⟨r, .close hname he hopen hr, hstores⟩
  | reopen ctx id reason actor reopener at? =>
      obtain ⟨e, name, r, he, hclosed, halone, hname, hr, hstores⟩ := Command.stores_of_reopen hg h
      exact ⟨r, .reopen hname he hclosed halone hr, hstores⟩
  | upsert judged updated defaults q =>
      simp only [Edit.run, bind_eq_ok, pure_eq_ok] at h
      obtain ⟨v, _, h, rfl, rfl⟩ := h
      cases hid : q.id with
      | none =>
          obtain ⟨d, r, hd, halone, hr, hstores⟩ := Sync.stores_of_upsert_new hg hid h
          exact ⟨r, .insert hid hd halone hr, hstores⟩
      | some id =>
          obtain ⟨e, d, r, he, hd, halone, hr, hstores⟩ := Sync.stores_of_upsert_again hg hid h
          exact ⟨r, .overwrite hid he hd halone hr, hstores⟩
  | migrate now defaults q =>
      simp only [Edit.run, bind_eq_ok, pure_eq_ok] at h
      obtain ⟨v, _, h, rfl, rfl⟩ := h
      obtain ⟨d, r, hd, halone, hr, hstores⟩ := Sync.stores_of_migrate hg h
      exact ⟨r, .migrate hd halone hr, hstores⟩

/-! ## What becomes of the register -/

def Edit.Overwrites (c : Edit) (id : Option Int) : Prop :=
  ∃ judged updated defaults q, c = .upsert judged updated defaults q ∧ q.id = id

/-- The record `r` is what became of `e`: it has the id, the pair and the time of creation. -/
structure Record.Continues (r e : Record) : Prop where
  succeeds : r.Succeeds e
  created : r.whenCreated = e.whenCreated

/-- What an edit that succeeds does to the register `g`: it stores `v`, which is new or continues a
stored record, and leaves the register `h`. -/
inductive Edit.Effect (c : Edit) (g : Register) (v : Record) (h : Register) : Prop where
  | new {r : Record} (stores : g.Stores r v h) (id : r.id = none)
      (differ : r.firstNumber ≠ r.secondNumber)
      (alone : r.isOpen = true → g.NoOtherOpen none r.firstNumber r.secondNumber)
  | again {r e : Record} (stores : g.Stores r v h) (stored : e ∈ g.records)
      (continues : r.Continues e)
      (alone : r.isOpen = true → e.isOpen = true ∨ g.NoOtherOpen e.id e.firstNumber e.secondNumber)
      (authorised : ¬ c.Overwrites e.id → r.authorisedBy = e.authorisedBy)

namespace Edit

theorem effect_of_draft {c : Edit} {g h : Register} {d : Draft} {r v : Record}
    {first second : String}
    (hd : d.id = none ∧ d.firstNumber = .str first ∧ d.secondNumber = .str second)
    (hdiffer : first ≠ second) (halone : d.isClosed = false → g.NoOtherOpen d.id first second)
    (hr : d.HeldAs r) (hstores : g.Stores r v h) : c.Effect g v h := by
  obtain ⟨hid, hfirst, hsecond⟩ := hd
  obtain ⟨rfl, rfl⟩ := Prod.mk.inj (hr.pair hfirst hsecond)
  refine .new hstores (hr.id.trans hid) hdiffer ?_
  intro hopen
  rw [← hid]
  exact halone (Sync.isOpen_of_heldAs hr hopen)

theorem effect_of_makes {c : Edit} {g h : Register} {r v : Record} (hg : g.IsTable)
    (hr : c.Makes g r) (hstores : g.Stores r v h) : c.Effect g v h := by
  have hfound {id : Int} {e : Record} (he : g.find? id = some e) : e ∈ g.records ∧ e.id = some id :=
    hg.find?_eq_some_iff.1 he
  cases hr with
  | create _ _ differ alone made =>
      obtain ⟨hid, hpair, -⟩ := Proposal.pair_of_record made
      obtain ⟨hfirst, hsecond⟩ := Prod.mk.inj hpair
      rw [← hfirst, ← hsecond] at differ alone
      exact .new hstores hid differ fun _ => alone
  | amend _ stored made =>
      obtain rfl := Record.eq_of_amend made
      exact .again hstores (hfound stored).1 ⟨⟨rfl, rfl⟩, rfl⟩ (fun hopen => .inl hopen) fun _ => rfl
  | close _ stored _ made =>
      obtain ⟨_, _, _, -, rfl⟩ := Record.eq_of_close made
      exact .again hstores (hfound stored).1 ⟨⟨rfl, rfl⟩, rfl⟩ nofun fun _ => rfl
  | reopen _ stored _ alone made =>
      obtain rfl := Record.eq_of_reopen made
      exact .again hstores (hfound stored).1 ⟨⟨rfl, rfl⟩, rfl⟩ (fun _ => .inr alone) fun _ => rfl
  | insert _ drafted alone held =>
      obtain ⟨hdiffer, hnone, hfirst, hsecond, -⟩ := LegacyRequest.draft_of_accepted drafted
      exact effect_of_draft ⟨hnone, hfirst, hsecond⟩ hdiffer alone held hstores
  | @overwrite _ updated defaults q d _ e _ named stored _ alone held =>
      obtain ⟨he, heid⟩ := hfound stored
      refine .again hstores he ⟨⟨held.id, held.pair rfl rfl⟩, held.created⟩ ?_ ?_
      · intro hopen
        have hd : (LegacyRequest.restated e d defaults updated).isClosed = false :=
          Sync.isOpen_of_heldAs held hopen
        exact .inr (alone hd)
      · intro hother
        exact absurd ⟨_, _, _, q, rfl, named.trans heid.symm⟩ hother
  | @migrate _ _ _ d a _ drafted alone held =>
      obtain ⟨hdiffer, hnone, hfirst, hsecond, -⟩ := LegacyRequest.draft_of_accepted drafted
      exact effect_of_draft (d := { d with authorisedBy := a }) ⟨hnone, hfirst, hsecond⟩ hdiffer
        alone held hstores

theorem effect_of_run {c : Edit} {s t : Session} {v : Record} (hg : s.working.IsTable)
    (h : c.run.run s = .ok v t) : c.Effect s.working v t.working := by
  obtain ⟨r, hr, hstores⟩ := makes_of_run hg h
  exact effect_of_makes hg hr hstores

theorem admits_of_run {e : Edit} {s t : Session} {v : Record} (hg : s.working.IsTable)
    (h : e.run.run s = .ok v t) :
    v.closureConsistent = true ∧ s.working.Admits v ∧ s.working.IsUpdate v t.working := by
  cases effect_of_run hg h with
  | new hstores hid hdiffer halone =>
      exact ⟨hstores.closure, hstores.admits_new hid hdiffer halone hg, hstores.update⟩
  | again hstores he hr halone _ =>
      obtain ⟨hid, hpair⟩ := hr.succeeds
      exact ⟨hstores.closure, hstores.admits_again he hid hpair halone hg, hstores.update⟩

end Edit

/-- After an edit the register is as it was, or one record that it admits is stored in it. -/
theorem Register.after_edit {g : Register} (hg : g.IsTable) (e : Edit) :
    g.after (.edit e) = g ∨
      ∃ v, v.closureConsistent = true ∧ g.Admits v ∧ g.IsUpdate v (g.after (.edit e)) := by
  rw [Register.after, scope_snd]
  cases h : e.run.run (Session.start g) with
  | ok v t => exact .inr ⟨v, Edit.admits_of_run (by exact hg) h⟩
  | error f t => exact .inl rfl

theorem Register.IsSound.after_edit {g : Register} (hg : g.IsSound) (e : Edit) :
    (g.after (.edit e)).IsSound := by
  rcases Register.after_edit hg.table e with h | ⟨v, hclosure, hv, hupdate⟩
  · rw [h]
    exact hg
  · exact hg.update hclosure hv hupdate

end KeepApart
