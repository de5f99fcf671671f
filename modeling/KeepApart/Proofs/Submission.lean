import KeepApart.Proofs.Failure
import KeepApart.Proofs.History

/-!
# What edits hand to storage

An edit checks first and stores one record at its end. So it fails in a check, which only reads, or it
hands a draft to storage that storage does not take. When the defaults of legacy requests are texts,
storage takes every draft that an edit hands to it.
-/

namespace KeepApart

open KeepApart.Action Register

variable {α β : Type} {s t : Session} {f : Fault} {D : Draft → Prop}

def Fault.isOfStorage : Fault → Bool
  | rejected (.badClosure .inconsistentRow _) | rejected (.badClosure (.missingText _) _)
  | rejected (.badClosure .inconsistentColumns _) | notStored _ | unstorable | notUnicode => true
  | _ => false

theorem Fault.not_isOfStorage_of_codes (h : f.isOfCodes = true) : f.isOfStorage = false := by
  cases f <;> first | rfl | cases h

theorem Fault.not_isOfStorage_of_search (h : f.isOfSearch = true) : f.isOfStorage = false := by
  cases f with
  | rejected r => cases r <;> first | rfl | cases h
  | _ => first | rfl | cases h

/-- The fault is none of storage, and but for what the directory was asked the session is the same. -/
def Session.Spared (s : Session) (f : Fault) (t : Session) : Prop :=
  f.isOfStorage = false ∧ t = { s with searches := t.searches }

namespace Action

/-! ## Reading -/

/-- However the action ends, it only asks the directory, and storage is not what it fails with. -/
class Reads (act : Action α) : Prop where
  read : ∀ s, match act.run s with
    | .ok _ t => t = { s with searches := t.searches }
    | .error f t => s.Spared f t

theorem Reads.of_ok {act : Action α} [hact : Reads act] {a : α} (h : act.run s = .ok a t) :
    t = { s with searches := t.searches } := by
  have hs := hact.read s
  rwa [h] at hs

theorem Reads.of_error {act : Action α} [hact : Reads act] (h : act.run s = .error f t) :
    s.Spared f t := by
  have hs := hact.read s
  rwa [h] at hs

theorem reads_of_runs {act : Action α}
    (hok : ∀ s a t, act.run s = .ok a t → t = { s with searches := t.searches })
    (herror : ∀ s f t, act.run s = .error f t → s.Spared f t) : Reads act := by
  constructor
  intro s
  cases h : act.run s with
  | ok a t => exact hok s a t h
  | error f t => exact herror s f t h

theorem reads_attempt {x : Except Fault α} (hx : ∀ f, x = .error f → f.isOfStorage = false) :
    Reads (attempt x) := by
  refine reads_of_runs ?_ ?_
  · intro s a t h
    obtain ⟨-, rfl⟩ := attempt_eq_ok.1 h
    rfl
  · intro s f t h
    obtain ⟨hf, rfl⟩ := attempt_eq_error.1 h
    exact ⟨hx f hf, rfl⟩

theorem reads_check {x : Except Rejection α}
    (hx : ∀ r, x = .error r → (Fault.rejected r).isOfStorage = false) : Reads (check x) := by
  refine reads_of_runs ?_ ?_
  · intro s a t h
    obtain ⟨-, rfl⟩ := check_eq_ok.1 h
    rfl
  · intro s f t h
    obtain ⟨r, hr, rfl, rfl⟩ := check_eq_error.1 h
    exact ⟨hx r hr, rfl⟩

instance (actor : Option String) : Reads (requireActor actor) := by
  refine reads_of_runs ?_ ?_
  · intro s name t h
    obtain ⟨-, -, rfl⟩ := requireActor_eq_ok.1 h
    rfl
  · intro s f t h
    obtain ⟨-, rfl, rfl⟩ := requireActor_eq_error.1 h
    exact ⟨rfl, rfl⟩

instance (id : Int) : Reads (require id) := by
  refine reads_of_runs ?_ ?_
  · intro s r t h
    obtain ⟨-, -, -, rfl⟩ := require_eq_ok.1 h
    rfl
  · intro s f t h
    obtain ⟨⟨-, rfl⟩ | ⟨-, ⟨-, rfl⟩ | ⟨-, -, rfl⟩⟩, rfl⟩ := require_eq_error.1 h
    all_goals exact ⟨rfl, rfl⟩

instance (id : Option Int) (first second : String) : Reads (requireNoOtherOpen id first second) := by
  refine reads_of_runs ?_ ?_
  · intro s u t h
    obtain ⟨-, -, rfl⟩ := requireNoOtherOpen_eq_ok.1 h
    rfl
  · intro s f t h
    obtain ⟨⟨-, rfl⟩ | ⟨-, -, rfl⟩, rfl⟩ := requireNoOtherOpen_eq_error.1 h
    all_goals exact ⟨rfl, rfl⟩

instance (ctx : Context) (numbers : List String) : Reads (ctx.lookUp numbers) := by
  refine reads_of_runs ?_ ?_
  · intro s found t h
    obtain ⟨d, -, -, rfl⟩ := lookUp_eq_ok.1 h
    rfl
  · intro s f t h
    rcases lookUp_eq_error.1 h with ⟨-, rfl, rfl⟩ | ⟨d, -, hsearch, rfl⟩
    · exact ⟨rfl, rfl⟩
    · exact ⟨Fault.not_isOfStorage_of_search (Fault.isOfSearch_of_search hsearch), rfl⟩

instance (p : Proposal) (name : String) (now : Moment) : Reads (attempt (p.record name now)) :=
  reads_attempt fun _ h => Fault.not_isOfStorage_of_codes (Fault.isOfCodes_of_record h)

instance (q : LegacyRequest) (defaults : SyncDefaults) (noComment : Json) (today : Date) :
    Reads (attempt (q.draft defaults noComment today)) := by
  refine reads_attempt ?_
  intro f h
  rcases Fault.of_draft h with rfl | h
  · rfl
  · exact Fault.not_isOfStorage_of_codes h

instance (e : Record) (name : String) (at' : Moment) (a : Amendment) :
    Reads (attempt (e.amend name at' a)) := by
  refine reads_attempt ?_
  intro f h
  rcases Fault.of_amend h with rfl | rfl | ⟨cause, rfl⟩ <;> rfl

instance (e : Record) (closer reason : Option String) (at? : Option Moment) :
    Reads (check (e.close closer reason at?)) := by
  refine reads_check ?_
  intro r h
  rw [Record.eq_of_close_error h]
  rfl

instance (e : Record) (at' : Moment) (reopener reason : String) :
    Reads (check (e.reopen at' reopener reason)) := by
  refine reads_check ?_
  intro r h
  rw [Record.eq_of_reopen_error h]
  rfl

/-! ## Storing at the end -/

def FailsStoring (act : Action α) (s : Session) (D : Draft → Prop) : Prop :=
  ∀ f t, act.run s = .error f t →
    s.Spared f t ∨ ∃ d asked, D d ∧ (saveDraft d).run { s with searches := asked } = .error f t

-- Reading may have asked the directory, so what follows is met in the session with these searches.
theorem failsStoring_bind {x : Action α} {act : α → Action β} [Reads x]
    (hact : ∀ a asked, x.run s = .ok a { s with searches := asked } →
      FailsStoring (act a) { s with searches := asked } D) : FailsStoring (x >>= act) s D := by
  intro f t h
  rcases bind_eq_error.1 h with h | ⟨a, u, hx, h⟩
  · exact .inl (Reads.of_error h)
  · have hu := Reads.of_ok hx
    rw [hu] at hx h
    exact hact a _ hx f t h

theorem failsStoring_bind_pure {x : Action α} {a : α → β} (hx : FailsStoring x s D) :
    FailsStoring (x >>= fun v => pure (a v)) s D := by
  intro f t h
  exact hx f t (bind_pure_eq_error.1 h)

theorem failsStoring_guard_throw {c : Prop} [Decidable c] {e : Fault} {act : β → Action α}
    {rest : Action α} (he : e.isOfStorage = false) (hrest : FailsStoring rest s D) :
    FailsStoring (if c then throw e >>= act else rest) s D := by
  intro f t h
  rcases guard_throw_eq_error.1 h with ⟨-, rfl, rfl⟩ | ⟨-, h⟩
  · exact .inl ⟨he, rfl⟩
  · exact hrest f t h

theorem failsStoring_guard_reject {c : Prop} [Decidable c] {r : Rejection} {act : β → Action α}
    {rest : Action α} (hr : (Fault.rejected r).isOfStorage = false)
    (hrest : FailsStoring rest s D) : FailsStoring (if c then reject r >>= act else rest) s D :=
  failsStoring_guard_throw hr hrest

theorem failsStoring_saveDraft {d : Draft} (hd : D d) : FailsStoring (saveDraft d) s D :=
  fun _ _ h => .inr ⟨d, s.searches, hd, h⟩

theorem failsStoring_save {r : Record} (hr : D r.draft) : FailsStoring (save r) s D := by
  intro f t h
  refine .inr ⟨r.draft, s.searches, hr, ?_⟩
  rw [saveDraft_eq_error, Record.closureConsistent_draft, Record.record_draft]
  exact h

end Action

/-! ## Edits -/

inductive Edit.Submits (g : Register) : Edit → Draft → Prop where
  | create {ctx : Context} {p : Proposal} {actor : Option String} {name : String} {r : Record}
      (made : p.record name ctx.now = .ok r) : Submits g (.create ctx p actor) r.draft
  | amend {ctx : Context} {id : Int} {actor : Option String} {a : Amendment} {name : String}
      {e r : Record} (stored : g.find? id = some e) (made : e.amend name ctx.now a = .ok r) :
      Submits g (.amend ctx id actor a) r.draft
  | close {ctx : Context} {id : Int} {reason actor closer : Option String} {at? : Option Moment}
      {name : String} {e r : Record} (stored : g.find? id = some e)
      (made : e.close name reason (at?.getD ctx.now) = .ok r) :
      Submits g (.close ctx id reason actor closer at?) r.draft
  | reopen {ctx : Context} {id : Int} {reason actor reopener : Option String} {at? : Option Moment}
      {name : String} {e r : Record} (stored : g.find? id = some e)
      (made : e.reopen (at?.getD ctx.now) name (reason.getD "") = .ok r) :
      Submits g (.reopen ctx id reason actor reopener at?) r.draft
  | insert {judged updated : Moment} {defaults : SyncDefaults} {q : LegacyRequest} {d : Draft}
      (made : q.draft defaults defaults.noComment judged.date = .ok d) :
      Submits g (.upsert judged updated defaults q) d
  | overwrite {judged updated : Moment} {defaults : SyncDefaults} {q : LegacyRequest} {d : Draft}
      {id : Int} {e : Record} (stored : g.find? id = some e)
      (made : q.draft defaults defaults.noComment judged.date = .ok d) :
      Submits g (.upsert judged updated defaults q) (LegacyRequest.restated e d defaults updated)
  | migrate {now : Moment} {defaults : SyncDefaults} {q : LegacyRequest} {d : Draft}
      (made : q.draft defaults defaults.migratedNoComment now.date = .ok d) :
      Submits g (.migrate now defaults q)
        { d with authorisedBy := if d.authorisedBy.isNull then defaults.systemUser else d.authorisedBy }

theorem Command.failsStoring_givenOrActor {given actor : Option String} {act : String → Action Record}
    (hact : ∀ name asked, FailsStoring (act name) { s with searches := asked } D) :
    FailsStoring (match given? given with
      | some name => pure name >>= act
      | none => requireActor actor >>= act) s D := by
  cases given? given with
  | none => exact failsStoring_bind fun name asked _ => hact name asked
  | some name => exact hact name s.searches

theorem Sync.failsStoring_store {first second : String} {d : Draft} (hd : D d) :
    FailsStoring (store first second d) s D := by
  unfold store
  dsimp only
  cases d.isClosed with
  | true => exact failsStoring_saveDraft hd
  | false => exact failsStoring_bind fun _ _ _ => failsStoring_saveDraft hd

theorem Edit.failsStoring (e : Edit) (s : Session) :
    FailsStoring e.run s (Edit.Submits s.working e) := by
  cases e with
  | create ctx p actor =>
      unfold Edit.run Command.create
      refine failsStoring_bind fun name _ _ => ?_
      refine failsStoring_guard_reject rfl ?_
      refine failsStoring_guard_throw rfl ?_
      refine failsStoring_guard_reject rfl ?_
      refine failsStoring_bind fun _ _ _ => ?_
      refine failsStoring_bind fun _ _ _ => ?_
      refine failsStoring_bind fun r _ hr => ?_
      exact failsStoring_save (.create (attempt_eq_ok.1 hr).1)
  | amend ctx id actor a =>
      unfold Edit.run Command.amend
      refine failsStoring_guard_throw rfl ?_
      refine failsStoring_bind fun name _ _ => ?_
      refine failsStoring_bind fun e _ he => ?_
      refine failsStoring_bind fun r _ hr => ?_
      exact failsStoring_save (.amend (require_eq_ok.1 he).2.2.1 (attempt_eq_ok.1 hr).1)
  | close ctx id reason actor closer at? =>
      unfold Edit.run Command.close
      refine failsStoring_bind fun e _ he => ?_
      refine failsStoring_guard_reject rfl ?_
      refine Command.failsStoring_givenOrActor fun name _ => ?_
      refine failsStoring_bind fun r _ hr => ?_
      exact failsStoring_save (.close (require_eq_ok.1 he).2.2.1 (check_eq_ok.1 hr).1)
  | reopen ctx id reason actor reopener at? =>
      unfold Edit.run Command.reopen
      refine failsStoring_bind fun e _ he => ?_
      refine failsStoring_guard_reject rfl ?_
      refine failsStoring_bind fun _ _ _ => ?_
      refine Command.failsStoring_givenOrActor fun name _ => ?_
      refine failsStoring_bind fun r _ hr => ?_
      exact failsStoring_save (.reopen (require_eq_ok.1 he).2.2.1 (check_eq_ok.1 hr).1)
  | upsert judged updated defaults q =>
      refine failsStoring_bind_pure ?_
      unfold Sync.upsertOn
      cases q.id with
      | none =>
          refine failsStoring_bind fun d _ hd => ?_
          exact Sync.failsStoring_store (.insert (attempt_eq_ok.1 hd).1)
      | some id =>
          refine failsStoring_bind fun e _ he => ?_
          refine failsStoring_bind fun d _ hd => ?_
          exact Sync.failsStoring_store
            (.overwrite (require_eq_ok.1 he).2.2.1 (attempt_eq_ok.1 hd).1)
  | migrate now defaults q =>
      refine failsStoring_bind_pure ?_
      unfold Sync.migrate
      refine failsStoring_bind fun d _ hd => ?_
      exact Sync.failsStoring_store (.migrate (attempt_eq_ok.1 hd).1)

/-! ## What edits hand to storage -/

def Json.IsText (v : Json) : Prop := ∃ text, v = .str text

def Json.IsTextOrNull (v : Json) : Prop := ∃ text?, v = .ofText? text?

theorem Json.IsText.orNull {v : Json} (hv : v.IsText) : v.IsTextOrNull := by
  obtain ⟨text, rfl⟩ := hv
  exact ⟨some text, rfl⟩

theorem Json.isTextOrNull_null : Json.null.IsTextOrNull := ⟨none, rfl⟩

/-- Every value of the draft is a text, and only those that a record may lack are missing. -/
structure Draft.IsOfTexts (d : Draft) : Prop where
  firstNumber : d.firstNumber.IsText
  secondNumber : d.secondNumber.IsText
  comment : d.comment.IsText
  updatedBy : d.updatedBy.IsText
  authorisedBy : d.authorisedBy.IsTextOrNull
  closedBy : d.closedBy.IsTextOrNull
  closedReason : d.closedReason.IsTextOrNull

theorem Draft.IsOfTexts.exists_record {d : Draft} (hd : d.IsOfTexts) : ∃ r : Record, d = r.draft := by
  obtain ⟨id, _, firstRole, _, secondRole, reason, restriction, _, _, created, updated, _, isClosed,
    _, _, closedAt⟩ := d
  obtain ⟨⟨first, rfl⟩, ⟨second, rfl⟩, ⟨comment, rfl⟩, ⟨updatedBy, rfl⟩, ⟨authorisedBy, rfl⟩,
    ⟨closedBy, rfl⟩, ⟨closedReason, rfl⟩⟩ := hd
  exact ⟨⟨id, first, firstRole, second, secondRole, reason, restriction, comment, authorisedBy,
    created, updated, updatedBy, isClosed, closedBy, closedReason, closedAt⟩, rfl⟩

/-- Storage takes the draft: it is of texts, its closure is consistent, and it is new or in the place
of a stored record. -/
structure Register.Takes (g : Register) (d : Draft) : Prop where
  texts : d.IsOfTexts
  closure : d.closureConsistent = true
  place : d.id = none ∨ ∃ e ∈ g.records, d.id = e.id

theorem Record.isOfTexts_draft (r : Record) : r.draft.IsOfTexts :=
  ⟨⟨_, rfl⟩, ⟨_, rfl⟩, ⟨_, rfl⟩, ⟨_, rfl⟩, ⟨_, rfl⟩, ⟨_, rfl⟩, ⟨_, rfl⟩⟩

namespace Record

variable {e r : Record}

theorem closureConsistent_of_record {p : Proposal} {name : String} {now : Moment}
    (h : p.record name now = .ok r) : r.closureConsistent = true := by
  obtain ⟨_, _, _, _, rfl⟩ := Proposal.eq_of_record h
  rfl

theorem closureConsistent_of_amend {name : String} {at' : Moment} {a : Amendment}
    (h : e.amend name at' a = .ok r) : r.closureConsistent = e.closureConsistent := by
  obtain rfl := eq_of_amend h
  rfl

theorem closureConsistent_of_close {closer reason : Option String} {at? : Option Moment}
    (h : e.close closer reason at? = .ok r) : r.closureConsistent = true := by
  obtain ⟨_, _, _, -, rfl⟩ := eq_of_close h
  rfl

theorem closureConsistent_of_reopen {at' : Moment} {reopener reason : String}
    (h : e.reopen at' reopener reason = .ok r) : r.closureConsistent = true := by
  obtain rfl := eq_of_reopen h
  rfl

end Record

/-! ## Legacy requests -/

structure SyncDefaults.All (P : Json → Prop) (d : SyncDefaults) : Prop where
  systemUser : P d.systemUser
  noComment : P d.noComment
  noClosureReason : P d.noClosureReason
  migratedNoComment : P d.migratedNoComment
  syncClosureReason : P d.syncClosureReason

namespace LegacyRequest

variable {q : LegacyRequest} {defaults : SyncDefaults} {d : Draft}

theorem isText_textOr {text : Option String} {default : Json} (hdefault : default.IsText) :
    (textOr text default).IsText := by
  unfold textOr
  cases given? text with
  | none => exact hdefault
  | some given => exact ⟨given, rfl⟩

theorem isOfTexts_of_draft {noComment : Json} {today : Date} (hdefaults : defaults.All Json.IsText)
    (hcomment : noComment.IsText) (h : q.draft defaults noComment today = .ok d) :
    d.IsOfTexts ∧ d.closureConsistent = true := by
  have huser : (textOr q.modifiedBy defaults.systemUser).IsText := isText_textOr hdefaults.systemUser
  have hcomment' : (textOr q.comment noComment).IsText := isText_textOr hcomment
  obtain ⟨-, first, second, kind, -, rfl⟩ := eq_of_draft h
  simp only [drafted]
  cases Standing.on today q.effective q.expiry with
  | opened =>
      exact ⟨⟨⟨_, rfl⟩, ⟨_, rfl⟩, hcomment', huser, ⟨_, rfl⟩, Json.isTextOrNull_null,
        Json.isTextOrNull_null⟩, rfl⟩
  | closed =>
      refine ⟨⟨⟨_, rfl⟩, ⟨_, rfl⟩, hcomment', huser, ⟨_, rfl⟩, huser.orNull,
        hdefaults.noClosureReason.orNull⟩, ?_⟩
      obtain ⟨user, huser⟩ := huser
      obtain ⟨reason, hreason⟩ := hdefaults.noClosureReason
      simp only [Draft.closureConsistent, huser, hreason]
      rfl

theorem takes_of_draft {g : Register} {noComment : Json} {today : Date}
    (hdefaults : defaults.All Json.IsText) (hcomment : noComment.IsText)
    (h : q.draft defaults noComment today = .ok d) : g.Takes d := by
  obtain ⟨htexts, hclosure⟩ := isOfTexts_of_draft hdefaults hcomment h
  exact ⟨htexts, hclosure, .inl (draft_of_accepted h).2.1⟩

end LegacyRequest

namespace Register.Takes

variable {g : Register} {d : Draft} {defaults : SyncDefaults}

theorem restated {e : Record} {now : Moment} (hd : g.Takes d) (hdefaults : defaults.All Json.IsText)
    (he : e ∈ g.records) : g.Takes (LegacyRequest.restated e d defaults now) := by
  have hclosure := hd.closure
  have htext : (LegacyRequest.textOr e.closedReason defaults.syncClosureReason).IsText :=
    LegacyRequest.isText_textOr hdefaults.syncClosureReason
  obtain ⟨reason, hreason⟩ := htext
  refine ⟨⟨⟨_, rfl⟩, ⟨_, rfl⟩, hd.texts.comment, hd.texts.updatedBy, hd.texts.authorisedBy,
    hd.texts.closedBy, ?_⟩, ?_, .inr ⟨e, he, rfl⟩⟩
  · -- An open restatement drops the reason of the closure, whatever was stored.
    rw [LegacyRequest.restated, hreason]
    cases d.isClosed with
    | true => exact ⟨some reason, rfl⟩
    | false => exact Json.isTextOrNull_null
  · simp only [Draft.closureConsistent, LegacyRequest.restated, hreason] at hclosure ⊢
    cases hclosed : d.isClosed with
    | true => simp_all [Json.isNull]
    | false => simp_all [Json.isNull]

theorem authorised {a : Json} (hd : g.Takes d) (ha : a.IsTextOrNull) :
    g.Takes { d with authorisedBy := a } :=
  ⟨⟨hd.texts.firstNumber, hd.texts.secondNumber, hd.texts.comment, hd.texts.updatedBy, ha,
    hd.texts.closedBy, hd.texts.closedReason⟩, hd.closure, hd.place⟩

theorem of_record {r : Record} (hclosure : r.closureConsistent = true)
    (hplace : r.id = none ∨ ∃ e ∈ g.records, r.id = e.id) : g.Takes r.draft :=
  ⟨r.isOfTexts_draft, r.closureConsistent_draft.trans hclosure, hplace⟩

theorem of_succeeds {id : Int} {e r : Record} (hg : g.IsTable) (he : g.find? id = some e)
    (hr : r.Succeeds e) (hclosure : r.closureConsistent = true) : g.Takes r.draft :=
  of_record hclosure (.inr ⟨e, (hg.find?_eq_some_iff.1 he).1, hr.1⟩)

/-- What storage takes it only fails to store for want of an id, or in a broken session. -/
theorem spared (hg : s.working.IsTable) (hd : s.working.Takes d)
    (h : (saveDraft d).run s = .error f t) : s.Spared f t := by
  obtain ⟨r, rfl⟩ := hd.texts.exists_record
  rw [saveDraft_eq_error, hd.closure, Record.record_draft] at h
  rcases unwritten_of_store h with ⟨hid, h⟩ | h
  · obtain ⟨e, he, heid⟩ := hd.place.resolve_left hid
    obtain ⟨n, hn, hstorable⟩ := hg.exists_id he
    rw [heid, hn, requireStored_eq_error] at h
    obtain ⟨⟨-, rfl⟩ | ⟨-, ⟨⟨⟩, -⟩ | ⟨m, hm, ⟨-, rfl⟩ | ⟨-, hnone, -⟩⟩⟩, rfl⟩ := h
    · exact ⟨rfl, rfl⟩
    · exact ⟨rfl, rfl⟩
    · exact absurd (hn.trans hm) (hnone e he)
  · cases h with
    | pending broken => exact ⟨rfl, rfl⟩
    | inconsistentColumns closure =>
        have hclosure := hd.closure
        rw [Record.closureConsistent_draft, closure] at hclosure
        cases hclosure
    | full closure new last => exact ⟨rfl, rfl⟩

end Register.Takes

/-! ## Edits with texts as defaults -/

def Edit.HasDefaults (P : Json → Prop) : Edit → Prop
  | upsert _ _ defaults _ | migrate _ defaults _ => defaults.All P
  | _ => True

theorem Edit.Submits.takes {g : Register} {e : Edit} {d : Draft} (hg : g.IsSound)
    (he : e.HasDefaults Json.IsText) (hd : e.Submits g d) : g.Takes d := by
  have hfound {id : Int} {r : Record} (hr : g.find? id = some r) : r ∈ g.records :=
    (hg.table.find?_eq_some_iff.1 hr).1
  cases hd with
  | create made =>
      obtain ⟨hid, -, -⟩ := Proposal.pair_of_record made
      exact .of_record (Record.closureConsistent_of_record made) (.inl hid)
  | amend stored made =>
      -- An amendment leaves the closure alone, and that of a stored record is consistent.
      have hclosure := hg.closures _ (hfound stored)
      rw [← Record.closureConsistent_of_amend made] at hclosure
      exact .of_succeeds hg.table stored (Record.succeeds_of_amend made).1 hclosure
  | close stored made =>
      exact .of_succeeds hg.table stored (Record.succeeds_of_close made).1
        (Record.closureConsistent_of_close made)
  | reopen stored made =>
      exact .of_succeeds hg.table stored (Record.succeeds_of_reopen made).1
        (Record.closureConsistent_of_reopen made)
  | insert made => exact LegacyRequest.takes_of_draft he he.noComment made
  | overwrite stored made =>
      have hd : g.Takes _ := LegacyRequest.takes_of_draft he he.noComment made
      exact hd.restated he (hfound stored)
  | migrate made =>
      have hd : g.Takes _ := LegacyRequest.takes_of_draft he he.migratedNoComment made
      refine hd.authorised ?_
      split
      · exact he.systemUser.orNull
      · exact hd.texts.authorisedBy

theorem Edit.spared_of_error {e : Edit} (hs : s.working.IsSound) (he : e.HasDefaults Json.IsText)
    (h : e.run.run s = .error f t) : s.Spared f t := by
  rcases e.failsStoring s f t h with h | ⟨d, asked, hd, h⟩
  · exact h
  · have hasked : Session.Spared { s with searches := asked } f t :=
      Register.Takes.spared hs.table (hd.takes hs he) h
    exact hasked

end KeepApart
