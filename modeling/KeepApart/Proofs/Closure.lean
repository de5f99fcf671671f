import KeepApart.Merge.Event
import KeepApart.Proofs.Atomicity
import KeepApart.Proofs.Publication

/-!
# Closures

Whatever is done in a session, and whether or not it fails, every record in it is closed with who, why
and when, or open with none of the three. Storage refuses a draft for its closure exactly when the rule
for records does. Only a session that waits to be taken back does not get as far as that with a draft
that has an id.
-/

namespace KeepApart

open KeepApart.Action Register

/-! ## The rule for records and for drafts -/

inductive Record.HasWholeClosure (r : Record) : Prop where
  | closed (flag : r.isClosed = true) (who : r.closedBy.isSome = true)
      (why : r.closedReason.isSome = true) (moment : r.closedAt.isSome = true)
  | opened (flag : r.isClosed = false) (who : r.closedBy = none) (why : r.closedReason = none)
      (moment : r.closedAt = none)

theorem Record.hasWholeClosure_of_consistent {r : Record} (hr : r.closureConsistent = true) :
    r.HasWholeClosure := by
  unfold closureConsistent at hr
  cases hclosed : r.isClosed with
  | true =>
      simp only [hclosed, if_true, Bool.and_eq_true] at hr
      exact .closed hclosed hr.1.1 hr.1.2 hr.2
  | false =>
      simp only [hclosed, Bool.false_eq_true, if_false, Bool.and_eq_true, Option.isNone_iff_eq_none]
        at hr
      exact .opened hclosed hr.1.1 hr.1.2 hr.2

theorem Record.checkClosure_eq_error_iff {r : Record} :
    (∃ e, r.checkClosure = .error e) ↔ r.closureConsistent = false := by
  unfold checkClosure closureConsistent
  cases r.isClosed <;> cases r.closedBy <;> cases r.closedReason <;> cases r.closedAt <;> simp

namespace Draft

variable {d : Draft} {r : Record}

/-- A record that is closed as the draft is, and has the details that the draft has. -/
theorem closureConsistent_eq (hclosed : r.isClosed = d.isClosed) (hat : r.closedAt = d.closedAt)
    (hby : r.closedBy.isSome = !d.closedBy.isNull)
    (hreason : r.closedReason.isSome = !d.closedReason.isNull) :
    r.closureConsistent = d.closureConsistent := by
  unfold Record.closureConsistent closureConsistent
  rw [hclosed, hat, ← Option.not_isSome, ← Option.not_isSome, hby, hreason, Bool.not_not,
    Bool.not_not]

theorem closureConsistent_shown : d.shown.closureConsistent = d.closureConsistent := by
  have hshown (v : Json) : (if v.isNull then none else some v.display).isSome = !v.isNull := by
    cases v.isNull <;> rfl
  exact closureConsistent_eq rfl rfl (hshown d.closedBy) (hshown d.closedReason)

/-- No text that a record needs is missing, and what storage holds as nothing is handed in as nothing. -/
structure IsComplete (d : Draft) : Prop where
  needed : ∀ v ∈ [d.firstNumber, d.secondNumber, d.comment, d.updatedBy], v ≠ .null
  held : ∀ v ∈ d.values, Column.text v = .ok none → v = .null

theorem IsComplete.text_ne_none (hd : d.IsComplete) :
    ∀ v ∈ [d.firstNumber, d.secondNumber, d.comment, d.updatedBy], Column.text v ≠ .ok none := by
  intro v hv hnone
  have hvalue : v ∈ d.values := by
    simp only [values, List.mem_cons, List.not_mem_nil, or_false] at hv ⊢
    tauto
  exact hd.needed v hv (hd.held v hvalue hnone)

theorem IsComplete.record_ne_missing (hd : d.IsComplete) (text : RequiredText) :
    d.record ≠ .error (.missing text) := by
  -- A column only fails for its value, so what is left are the four texts that are needed.
  have hcolumn (value : Json) : column value ≠ .error (.missing text) := by
    unfold column
    cases Column.text value <;> simp [Except.mapError]
  have hneed {needed : RequiredText} {s : Option String}
      (h : need needed s = .error (.missing text)) : s = none := by
    cases s with
    | none => rfl
    | some held => cases h
  have htexts := hd.text_ne_none
  simp only [List.forall_mem_cons, List.not_mem_nil, false_implies, implies_true, and_true] at htexts
  obtain ⟨hfirst, hsecond, hcomment, hupdated⟩ := htexts
  intro h
  simp only [record, except_bind_eq_error, hcolumn, column_eq_ok, need_eq_ok, false_or] at h
  obtain ⟨_, h₁, _, h₂, _, h₃, _, -, _, h₅, _, -, _, -, h⟩ := h
  rcases h with h | ⟨_, -, h | ⟨_, -, h | ⟨_, -, h | ⟨_, -, h⟩⟩⟩⟩
  · exact hfirst (hneed h ▸ h₁)
  · exact hsecond (hneed h ▸ h₂)
  · exact hcomment (hneed h ▸ h₃)
  · exact hupdated (hneed h ▸ h₅)
  · cases h

theorem IsOfTexts.isComplete (hd : d.IsOfTexts) : d.IsComplete := by
  obtain ⟨r, rfl⟩ := hd.exists_record
  constructor
  · simp [Record.draft]
  · have htext {text : String} (h : Column.text (.str text) = .ok none) : Json.str text = .null := by
      cases h
    have horNull {text? : Option String} (h : Column.text (.ofText? text?) = .ok none) :
        Json.ofText? text? = .null := by
      rw [Column.text_ofText?] at h
      cases h
      rfl
    simp only [values, List.forall_mem_cons, List.not_mem_nil, false_implies, implies_true, and_true]
    exact ⟨htext, htext, htext, horNull, htext, horNull, horNull⟩

theorem isSome_of_held {v : Json} {text? : Option String} (h : Column.text v = .ok text?)
    (hv : Column.text v = .ok none → v = .null) : text?.isSome = !v.isNull := by
  cases text? with
  | none =>
      rw [hv h]
      rfl
  | some text =>
      cases v <;> first | rfl | cases h

theorem IsComplete.closureConsistent_held (hd : d.IsComplete) (hr : d.HeldAs r) :
    r.closureConsistent = d.closureConsistent := by
  have hby : r.closedBy.isSome = !d.closedBy.isNull :=
    isSome_of_held hr.closedBy (hd.held _ (by simp [values]))
  have hreason : r.closedReason.isSome = !d.closedReason.isNull :=
    isSome_of_held hr.closedReason (hd.held _ (by simp [values]))
  exact closureConsistent_eq hr.isClosed hr.closedAt hby hreason

end Draft

/-! ## Refusals -/

variable {s t : Session} {d : Draft} {f : Fault}

def Session.Receives (s : Session) (d : Draft) : Prop :=
  d.id = none ∨ s.isBroken = false ∧ ∃ e ∈ s.working.records, d.id = e.id

theorem exists_refusal (hg : s.working.IsTable) (hplace : s.Receives d)
    (hclosure : d.closureConsistent = false) :
    (saveDraft d).run s = .error (.rejected (.badClosure .inconsistentRow d.id)) s.rollback := by
  rw [saveDraft_eq_error, hclosure]
  rcases hplace with hnone | ⟨hb, e, he, hid⟩
  · rw [hnone]
    rfl
  · obtain ⟨n, hn, hstorable⟩ := hg.exists_id he
    rw [hid, hn]
    exact bind_eq_error.2 (.inr ⟨n, s, requireStored_eq_ok.2 ⟨hb, rfl, hstorable, ⟨e, he, hn⟩, rfl⟩,
      rfl⟩)

theorem pending_of_broken (hb : s.isBroken = true) (hid : d.id ≠ none) :
    (saveDraft d).run s = .error .pendingRollback s := by
  obtain ⟨n, hn⟩ := Option.ne_none_iff_exists'.1 hid
  rw [saveDraft_eq_error, hn]
  exact bind_eq_error.2 (.inl (requireStored_eq_error.2 ⟨.inl ⟨hb, rfl⟩, rfl⟩))

theorem inconsistent_of_refusal (hd : d.IsComplete) (h : (saveDraft d).run s = .error f t)
    (hf : f.isOfClosure = true) : d.closureConsistent = false := by
  rw [saveDraft_eq_error] at h
  rcases unwritten_of_store h with ⟨-, h⟩ | h
  · obtain ⟨⟨-, rfl⟩ | ⟨-, ⟨-, rfl⟩ | ⟨_, -, ⟨-, rfl⟩ | ⟨-, -, rfl⟩⟩⟩, -⟩ :=
      requireStored_eq_error.1 h
    all_goals cases hf
  -- The reasons why a row is not written go by what was handed in, so that is given a name.
  · generalize hok : d.closureConsistent = ok at h
    generalize hrow : d.record = row at h
    cases h with
    | inconsistentRow => rfl
    | pending broken => cases hf
    | unstorable fault =>
        obtain ⟨v, -, hv⟩ := Draft.exists_of_unstorable hrow
        rcases Column.fault_of_text hv with rfl | rfl | rfl <;> cases hf
    | missing text => exact absurd hrow (hd.record_ne_missing text)
    | inconsistentColumns closure =>
        rw [hd.closureConsistent_held (Draft.record_eq_ok.1 hrow), hok] at closure
        cases closure
    | full _ _ _ => cases hf

/-! ## Consistent sessions -/

structure Register.IsConsistent (g : Register) : Prop where
  table : g.IsTable
  closures : ∀ r ∈ g.records, r.closureConsistent = true

namespace Register.IsConsistent

variable {g h : Register} {v : Record}

theorem empty : Register.empty.IsConsistent :=
  ⟨isSound_empty.table, isSound_empty.closures⟩

theorem update (hg : g.IsConsistent) (hv : v.closureConsistent = true) (hh : g.IsUpdate v h) :
    h.IsConsistent := by
  refine ⟨hh.table, ?_⟩
  intro r hr
  rcases (hh.mem_iff r).1 hr with rfl | ⟨hr, -⟩
  · exact hv
  · exact hg.closures r hr

theorem remove (hg : g.IsConsistent) (n : Int) : (g.remove n).IsConsistent :=
  ⟨hg.table.remove n, fun r hr => hg.closures r (mem_remove.1 hr).1⟩

end Register.IsConsistent

structure Session.IsConsistent (s : Session) : Prop where
  committed : s.committed.IsConsistent
  working : s.working.IsConsistent

namespace Session.IsConsistent

/-- Uncommitted work is left alone or lost. -/
theorem of_lost (hs : s.IsConsistent) (hcommitted : t.committed = s.committed)
    (hworking : t.working = s.working ∨ t.working = s.committed) : t.IsConsistent := by
  refine ⟨hcommitted ▸ hs.committed, ?_⟩
  rcases hworking with h | h
  · exact h ▸ hs.working
  · exact h ▸ hs.committed

theorem of_update {v : Record} (hs : s.IsConsistent) (hcommitted : t.committed = s.committed)
    (hv : v.closureConsistent = true) (hupdate : s.working.IsUpdate v t.working) :
    t.IsConsistent :=
  ⟨hcommitted ▸ hs.committed, hs.working.update hv hupdate⟩

end Session.IsConsistent

theorem keeps_store {id : Option Int} {ok : Bool} {row : Except Draft.Obstacle Record}
    (hid : ∀ r, row = .ok r → r.id = id) : Keeps Session.IsConsistent (store id ok row) := by
  constructor
  intro s hs
  cases h : (store id ok row).run s with
  | ok v t =>
      obtain ⟨r, -, hstores⟩ := stores_of_store hs.working.table hid h
      exact hs.of_update (KeepsCommitted.of_ok h) hstores.closure hstores.update
  | error f t => exact hs.of_lost (KeepsCommitted.of_error h) (registers_of_store h)

instance : IsInvariant Session.IsConsistent where
  saves r := keeps_store fun q hq => by rw [← Except.ok.inj hq]
  stores d := by
    have hstore : Keeps Session.IsConsistent (store d.id d.closureConsistent d.record) :=
      keeps_store fun r hr => (Draft.record_eq_ok.1 hr).id
    unfold saveDraft
    infer_instance
  deletes id := by
    constructor
    intro s hs
    cases h : (Action.delete id).run s with
    | ok u t =>
        obtain ⟨-, n, -, -, -, rfl⟩ := delete_eq_ok.1 h
        exact ⟨hs.committed, hs.working.remove n⟩
    | error f t =>
        cases StorageCall.effect_of_delete_error h with
        | missing _ | pending _ | overflow => exact hs
  asked _ _ hs := ⟨hs.committed, hs.working⟩

namespace Merge

variable {P : Session → Prop} [IsInvariant P]

instance (old new : Json) (m : MergeReport) (r : Record) : Keeps P (stepValues old new m r) := by
  have hfound (found : Option Record) (act : Record → Action MergeReport)
      (other : Action MergeReport) [∀ r, Keeps P (act r)] [Keeps P other] :
      Keeps P (match found with | some d => act d | none => other) := by
    cases found <;> infer_instance
  unfold stepValues
  dsimp only
  infer_instance

instance (old new : Json) (w : Window) : Keeps P (runValues old new w) := by
  have htext (found : Option String) (act : String → Action MergeReport)
      (other : Action MergeReport) [∀ text, Keeps P (act text)] [Keeps P other] :
      Keeps P (match found with | none => other | some text => act text) := by
    cases found <;> infer_instance
  unfold runValues
  infer_instance

instance (old new : Json) (w : Window) : Keeps P (ofValues old new w) := by
  unfold ofValues
  split <;> infer_instance

instance (now : Moment) (e : PrisonerEvent) : Keeps P (e.apply now) := by
  unfold PrisonerEvent.apply
  infer_instance

end Merge

/-! ## Everything that is done in a session -/

/-- What is done in a session: calls of the register, events, and calls on storage itself. A call in a
scope of its own is one with a commit or a rollback behind it. -/
inductive Operation where
  | edit (e : Edit)
  | merge (old new : Json) (w : Window)
  | event (now : Moment) (e : PrisonerEvent)
  | storage (c : StorageCall)
  | rollback

def Operation.run : Operation → Action Unit
  | edit e => do
    let _ ← e.run
    return ()
  | merge old new w => do
    let _ ← Merge.ofValues old new w
    return ()
  | event now e => do
    let _ ← e.apply now
    return ()
  | storage c => do
    let _ ← c.run
    return ()
  | rollback => modify Session.rollback

instance : Keeps Session.IsConsistent Action.commit := by
  constructor
  intro s hs
  cases h : Action.commit.run s with
  | ok u t =>
      obtain ⟨-, rfl⟩ := StorageCall.commit_eq_ok.1 h
      exact ⟨hs.working, hs.working⟩
  | error f t =>
      obtain ⟨-, -, rfl⟩ := StorageCall.commit_eq_error.1 h
      exact hs

instance : Keeps Session.IsConsistent (modify Session.rollback : Action Unit) :=
  ⟨fun _ hs => ⟨hs.committed, hs.committed⟩⟩

instance (c : StorageCall) : Keeps Session.IsConsistent c.run := by
  cases c <;> unfold StorageCall.run <;> infer_instance

instance (o : Operation) : Keeps Session.IsConsistent o.run := by
  cases o <;> unfold Operation.run <;> infer_instance

namespace Session

def after (s : Session) (o : Operation) : Session :=
  match o.run.run s with
  | .ok _ t => t
  | .error _ t => t

def worked (ops : List Operation) : Session := ops.foldl after (start .empty)

theorem IsConsistent.after (hs : s.IsConsistent) (o : Operation) : (s.after o).IsConsistent := by
  unfold Session.after
  cases h : o.run.run s with
  | ok u t => exact Keeps.of_ok hs h
  | error f t => exact Keeps.of_error hs h

theorem isConsistent_worked (ops : List Operation) : (worked ops).IsConsistent := by
  induction ops using List.reverseRecOn with
  | nil => exact ⟨.empty, .empty⟩
  | append_singleton ops o ih =>
      rw [worked, List.foldl_append]
      exact ih.after o

end Session

/-- Whatever was done in a session, every record in it has a whole closure, and a complete draft that
the session receives is refused for its closure if and only if the rule for records refuses it, which it
does if and only if the row is inconsistent. Any other draft with an id of a stored record has to wait. -/
theorem closures_are_whole (ops : List Operation) {s : Session} (hs : Session.worked ops = s) :
    (∀ r, r ∈ s.working.records ∨ r ∈ s.committed.records → r.HasWholeClosure) ∧
      (∀ d : Draft, d.IsComplete → s.Receives d →
        ((∃ f t, (saveDraft d).run s = .error f t ∧ f.isOfClosure = true) ↔
            ∃ e, d.shown.checkClosure = .error e) ∧
          ((∃ e, d.shown.checkClosure = .error e) ↔ d.closureConsistent = false)) ∧
      ∀ d : Draft, s.isBroken = true → d.id ≠ none →
        (saveDraft d).run s = .error .pendingRollback s := by
  obtain ⟨hcommitted, hworking⟩ : s.IsConsistent := hs ▸ Session.isConsistent_worked ops
  refine ⟨?_, ?_, fun d => pending_of_broken⟩
  · rintro r (hr | hr)
    · exact Record.hasWholeClosure_of_consistent (hworking.closures r hr)
    · exact Record.hasWholeClosure_of_consistent (hcommitted.closures r hr)
  · intro d hd hplace
    have hrule : (∃ e, d.shown.checkClosure = .error e) ↔ d.closureConsistent = false := by
      rw [Record.checkClosure_eq_error_iff, Draft.closureConsistent_shown]
    refine ⟨?_, hrule⟩
    rw [hrule]
    constructor
    · rintro ⟨f, t, h, hf⟩
      exact inconsistent_of_refusal hd h hf
    · intro hclosure
      exact ⟨_, _, exists_refusal hworking.table hplace hclosure, rfl⟩

def Operation.published : List Operation :=
  [.storage (.save (.plain "A1" "B2")), .storage .commit]

/-- The record is closed. A draft that opens it again and leaves the moment of its closure in place is
refused. -/
theorem closures_are_whole_reopened :
    ∃ (ops : List Operation) (s : Session) (r : Record) (d : Draft), Session.worked ops = s ∧
      s.working.records = [r] ∧ r.isClosed = true ∧ r.HasWholeClosure ∧ d.IsComplete ∧
      s.Receives d ∧ d.isClosed = false ∧ d.closedAt = r.closedAt ∧
      ∃ f t, (saveDraft d).run s = .error f t ∧ f.isOfClosure = true := by
  let ctx : Context := ⟨Moment.earliest, none⟩
  let close : Operation := .edit (.close ctx 1 (some "Moved") none (some "USER") none)
  let reopened : Record := { Merge.plain 1 "A1" "B2" with closedAt := some Moment.earliest }
  let ops : List Operation := Operation.published ++ [close]
  obtain ⟨hwhole, hrefused, -⟩ := closures_are_whole ops rfl
  have hcomplete : reopened.draft.IsComplete := reopened.isOfTexts_draft.isComplete
  have hplace : (Session.worked ops).Receives reopened.draft := .inr ⟨rfl, _, .head _, rfl⟩
  obtain ⟨hrule, -⟩ := hrefused reopened.draft hcomplete hplace
  exact ⟨ops, _, _, reopened.draft, rfl, rfl, rfl, hwhole _ (.inl (.head _)), hcomplete, hplace,
    rfl, rfl, hrule.2 ⟨_, rfl⟩⟩

/-- A value that storage cannot hold leaves a session that waits to be taken back. An inconsistent draft
with the id of a stored record fails there for that, and not for its closure. -/
theorem inconsistent_but_pending :
    ∃ (ops : List Operation) (s : Session) (d : Draft), Session.worked ops = s ∧ d.IsComplete ∧
      (∃ e ∈ s.working.records, d.id = e.id) ∧ (∃ e, d.shown.checkClosure = .error e) ∧
      (saveDraft d).run s = .error .pendingRollback s ∧
      ¬ ∃ f t, (saveDraft d).run s = .error f t ∧ f.isOfClosure = true := by
  let half : Draft := { Draft.plain "C3" "D4" with comment := .surrogates [0xD800] }
  let closed : Record := { Merge.plain 1 "A1" "B2" with isClosed := true }
  refine ⟨Operation.published ++ [.storage (.save half)], _, closed.draft, rfl,
    closed.isOfTexts_draft.isComplete, ⟨_, .head _, rfl⟩, ⟨_, rfl⟩, rfl, ?_⟩
  rintro ⟨f, t, h, hf⟩
  cases h
  cases hf

end KeepApart
