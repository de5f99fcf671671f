import KeepApart.Merge.Event
import KeepApart.Proofs.Merge.Pass

/-!
# One step of a merge of values

A step that succeeds has one of three outcomes, whatever values name the two numbers. A renamed record
changes in its pair alone: the text under which storage holds the new value takes one side. A step of a
merge of texts has the outcomes of a merge of values that are texts.
-/

namespace KeepApart

def Record.paired (r : Record) (p : String × String) : Record :=
  { r with firstNumber := p.1, secondNumber := p.2 }

namespace Merge

open KeepApart.Action

/-! ## Sides -/

def isOnFirst (old : Json) (q : Record) : Bool := old.str? == some q.firstNumber

def opposite (old : Json) (q : Record) : String :=
  if isOnFirst old q then q.secondNumber else q.firstNumber

/-- The pair with a text in the place of the old number. -/
def target (old : Json) (q : Record) (text : String) : String × String :=
  if isOnFirst old q then (text, opposite old q) else (opposite old q, text)

/-- What is handed in for a record that is renamed. -/
def handed (old new : Json) (q : Record) : Draft :=
  if isOnFirst old q then { q.draft with firstNumber := new } else { q.draft with secondNumber := new }

section Sides

variable {old new : Json} {q r : Record}

theorem eq_paired_of_held (h : (handed old new q).HeldAs r) :
    ∃ text, Column.text new = .ok (some text) ∧ r = q.paired (target old q text) := by
  have hrecord : (handed old new q).record = .ok r := Draft.record_eq_ok.2 h
  have hstr (s : String) : Column.text (.str s) = .ok (some s) := rfl
  unfold handed at hrecord
  unfold target opposite
  split at hrecord
  all_goals
    simp only [Draft.record, Record.draft, except_bind_eq_ok, Draft.column_eq_ok, Draft.need_eq_ok,
      hstr, Column.text_ofText?, Except.ok.injEq, Option.some.injEq, existsAndEq, true_and] at hrecord
    obtain ⟨text, htext, hr⟩ := hrecord
    refine ⟨text, htext, ?_⟩
    simp only [*]
    exact (Except.ok.inj hr).symm

theorem isPlain_ofText? (text : Option String) :
    ((Json.ofText? text).isNull || (Json.ofText? text).str?.isSome) = true := by
  cases text <;> rfl

theorem isPlain_draft : r.draft.isPlain = true := by
  have hstr (s : String) : (Json.str s).str?.isSome = true := rfl
  simp [Draft.isPlain, Draft.values, Record.draft, isPlain_ofText?, hstr]

theorem isPlain_handed : (handed old new q).isPlain = (new.isNull || new.str?.isSome) := by
  have hstr (s : String) : (Json.str s).str?.isSome = true := rfl
  unfold handed
  split <;> simp [Draft.isPlain, Draft.values, Record.draft, isPlain_ofText?, hstr]

/-- A value that is no other than a text and is held as one is that text. -/
theorem eq_str_of_held {text : String} (hplain : (new.isNull || new.str?.isSome) = true)
    (h : Column.text new = .ok (some text)) : new = .str text := by
  cases new with
  | null => cases h
  | str s =>
      cases h
      rfl
  | _ => cases hplain

theorem isOnFirst_str {old : String} : isOnFirst (.str old) q = true ↔ q.firstNumber = old := by
  have hstr : (Json.str old).str? = some old := rfl
  rw [isOnFirst, hstr, beq_iff_eq, Option.some.injEq, eq_comm]

theorem opposite_str (old : String) : opposite (.str old) q = q.counterpart old := by
  simp only [opposite, isOnFirst_str, Record.counterpart]

theorem renamed_eq_paired (old new : String) :
    q.renamed old new = q.paired (target (.str old) q new) := by
  by_cases hfirst : q.firstNumber = old <;>
    simp [Record.renamed, target, opposite, isOnFirst_str, Record.paired, hfirst]

end Sides

/-! ## Outcomes -/

inductive ValueOutcome (old new : Json) (h : Register) (q : Record) (m : MergeReport) :
    MergeReport → Register → Prop where
  | collapsed {n : Int} (id : q.id = some n) (itself : new.str? = some (opposite old q)) :
      ValueOutcome old new h q m { m with collapsed := m.collapsed ++ [q] } (h.remove n)
  | superseded {n : Int} {text : String} {d : Record} (id : q.id = some n)
      (other : new.str? ≠ some (opposite old q)) (held : Column.text new = .ok (some text))
      (found : h.withPair? (target old q text).1 (target old q text).2 = some d)
      (differs : d.id ≠ q.id) : ValueOutcome old new h q m (m.addSuperseding d) (h.remove n)
  | renamed {text : String} {w : Saved} {h' : Register}
      (other : new.str? ≠ some (opposite old q)) (held : Column.text new = .ok (some text))
      (free : ∀ d, h.withPair? (target old q text).1 (target old q text).2 = some d → d.id = q.id)
      (stores : h.Stores (q.paired (target old q text)) w.record h')
      (plain : w.given.isPlain = true → new = .str text) :
      ValueOutcome old new h q m { m with renamed := m.renamed ++ [w] } h'

theorem given_of_saveDraft {s t : Session} {d : Draft} {w : Saved}
    (h : (saveDraft d).run s = .ok w t) : w.given = { d with id := w.record.id } := by
  simp only [saveDraft, bind_eq_ok, pure_eq_ok] at h
  obtain ⟨_, _, -, rfl, -⟩ := h
  rfl

section Steps

variable {s t : Session} {q : Record}

def rename (old new : Json) (m : MergeReport) (q : Record) : Action MergeReport := do
  return { m with renamed := m.renamed ++ [← saveDraft (handed old new q)] }

theorem stepValues_eq (old new : Json) (m : MergeReport) (q : Record) :
    stepValues old new m q =
      if new.str? == some (opposite old q) then
        Action.delete q.id >>= fun _ => pure { m with collapsed := m.collapsed ++ [q] }
      else
        Action.register >>= fun g => Action.attempt (Column.text new) >>= fun text =>
          match text.bind fun t => g.withPair? (target old q t).1 (target old q t).2 with
          | some d =>
            if d.id != q.id then Action.delete q.id >>= fun _ => pure (m.addSuperseding d)
            else rename old new m q
          | none => rename old new m q := by
  unfold stepValues rename handed target opposite isOnFirst
  cases old.str? == some q.firstNumber <;> rfl

theorem outcome_of_stepValues {old new : Json} {m m' : MergeReport} (hs : s.working.IsTable)
    (h : (stepValues old new m q).run s = .ok m' t) :
    ValueOutcome old new s.working q m m' t.working := by
  rw [stepValues_eq] at h
  split at h
  · rename_i hitself
    obtain ⟨_, _, hrun, h⟩ := bind_eq_ok.1 h
    obtain ⟨rfl, rfl⟩ := pure_eq_ok.1 h
    obtain ⟨-, n, hid, -, -, rfl⟩ := delete_eq_ok.1 hrun
    exact .collapsed hid (beq_iff_eq.1 hitself)
  · rename_i hother
    have hother' : new.str? ≠ some (opposite old q) := by simpa using hother
    simp only [bind_eq_ok, register_eq_ok, attempt_eq_ok] at h
    obtain ⟨_, _, ⟨-, rfl, rfl⟩, held, _, ⟨hheld, rfl⟩, h⟩ := h
    generalize hfound : (held.bind fun text =>
      s.working.withPair? (target old q text).1 (target old q text).2) = found at h
    have hrename (hfree : ∀ d, found = some d → d.id = q.id)
        (h : (rename old new m q).run s = .ok m' t) :
        ValueOutcome old new s.working q m m' t.working := by
      obtain ⟨w, _, hrun, h⟩ := bind_eq_ok.1 h
      obtain ⟨rfl, rfl⟩ := pure_eq_ok.1 h
      obtain ⟨r, hr, hstores⟩ := stores_of_saveDraft hs hrun
      obtain ⟨text, htext, rfl⟩ := eq_paired_of_held hr
      obtain rfl := Except.ok.inj (hheld.symm.trans htext)
      refine .renamed hother' htext (fun d hd => hfree d (hfound.symm.trans hd)) hstores ?_
      intro hplain
      have hgiven : w.given.isPlain = (handed old new q).isPlain := by
        rw [given_of_saveDraft hrun]
        rfl
      rw [hgiven, isPlain_handed] at hplain
      exact eq_str_of_held hplain htext
    cases found with
    | none =>
        dsimp only at h
        refine hrename ?_ h
        intro d hd
        cases hd
    | some d =>
        dsimp only at h
        split at h
        · rename_i hdiffers
          obtain ⟨text, rfl, hd⟩ := Option.bind_eq_some_iff.1 hfound
          obtain ⟨_, _, hrun, h⟩ := bind_eq_ok.1 h
          obtain ⟨rfl, rfl⟩ := pure_eq_ok.1 h
          obtain ⟨-, n, hid, -, -, rfl⟩ := delete_eq_ok.1 hrun
          exact .superseded hid hother' hheld hd (by simpa using hdiffers)
        · rename_i hsame
          refine hrename ?_ h
          rintro _ ⟨⟩
          simpa using hsame

/-- A step of a merge of texts has an outcome of a merge of values. -/
theorem outcome_of_step {old new : String} {m m' : MergeResults} (hs : s.working.IsTable)
    (h : (step old new m q).run s = .ok m' t) :
    ValueOutcome (.str old) (.str new) s.working q m.report m'.report t.working := by
  have hrename (other : q.counterpart old ≠ new)
      (free : ∀ d, s.working.withPair? (q.renamed old new).firstNumber
        (q.renamed old new).secondNumber = some d → d.id = q.id)
      (h : (save (q.renamed old new) >>= fun v => pure (m.addRenamed v)).run s = .ok m' t) :
      ValueOutcome (.str old) (.str new) s.working q m.report m'.report t.working := by
    obtain ⟨v, _, hrun, h⟩ := bind_eq_ok.1 h
    obtain ⟨rfl, rfl⟩ := pure_eq_ok.1 h
    have hstores := stores_of_save hs hrun
    rw [renamed_eq_paired] at hstores free
    have hreport : (m.addRenamed v).report =
        { m.report with renamed := m.report.renamed ++ [Saved.ofRecord v] } := by
      simp [MergeResults.addRenamed, MergeResults.report]
    rw [hreport]
    refine .renamed ?_ rfl free hstores fun _ => rfl
    rw [opposite_str]
    exact fun heq => other (Option.some.inj heq).symm
  unfold step at h
  split at h
  · rename_i hitself
    obtain ⟨_, _, hrun, h⟩ := bind_eq_ok.1 h
    obtain ⟨rfl, rfl⟩ := pure_eq_ok.1 h
    obtain ⟨-, n, hid, -, -, rfl⟩ := delete_eq_ok.1 hrun
    refine .collapsed hid ?_
    rw [opposite_str, hitself]
    rfl
  · rename_i hother
    simp only [bind_eq_ok, register_eq_ok] at h
    obtain ⟨_, _, ⟨-, rfl, rfl⟩, h⟩ := h
    split at h
    · rename_i d hd
      split at h
      · rename_i hdiffers
        obtain ⟨_, _, hrun, h⟩ := bind_eq_ok.1 h
        obtain ⟨rfl, rfl⟩ := pure_eq_ok.1 h
        obtain ⟨-, n, hid, -, -, rfl⟩ := delete_eq_ok.1 hrun
        rw [renamed_eq_paired] at hd
        refine .superseded hid ?_ rfl hd (by simpa using hdiffers)
        rw [opposite_str]
        exact fun heq => hother (Option.some.inj heq).symm
      · rename_i hsame
        refine hrename hother ?_ h
        intro d' hd'
        obtain rfl := Option.some.inj (hd.symm.trans hd')
        simpa using hsame
    · rename_i hnone
      refine hrename hother ?_ h
      intro d hd
      rw [hnone] at hd
      cases hd

end Steps

/-! ## Whole merges -/

theorem ValueOutcome.isTable {old new : Json} {h h' : Register} {q : Record} {m m' : MergeReport}
    (ho : ValueOutcome old new h q m m' h') (hh : h.IsTable) : h'.IsTable := by
  cases ho with
  | collapsed _ _ | superseded _ _ _ _ _ => exact hh.remove _
  | renamed _ _ _ stores _ => exact stores.update.table

theorem id_ne_of_distinct {q r : Record} {rest : List Record}
    (hdistinct : ((q :: rest).map (·.id)).Nodup) (hr : r ∈ rest) : r.id ≠ q.id := by
  rw [List.map_cons, List.nodup_cons] at hdistinct
  intro heq
  exact hdistinct.1 (heq ▸ List.mem_map_of_mem hr)

theorem ValueOutcome.others_iff {old new : Json} {h h' : Register} {q r : Record} {m m' : MergeReport}
    (ho : ValueOutcome old new h q m m' h') (hh : h.IsTable) (hq : q ∈ h.records) (hr : r.id ≠ q.id) :
    r ∈ h'.records ↔ r ∈ h.records := by
  cases ho with
  | collapsed id _ | superseded id _ _ _ _ =>
      rw [id] at hr
      rw [Register.mem_remove, and_iff_left hr]
  | @renamed text _ _ _ _ _ stores _ =>
      have hid : r.id ≠ (q.paired (target old q text)).id := hr
      rw [stores.update.mem_iff, stores.eq_of_stored hq rfl hh, and_iff_left hid, or_iff_right]
      rintro rfl
      exact hid rfl

/-- The records are taken one by one, each as the ones before it left the register. -/
inductive ValueSteps (old new : Json) :
    List Record → MergeReport → Register → MergeReport → Register → Prop where
  | nil {m : MergeReport} {h : Register} : ValueSteps old new [] m h m h
  | cons {q : Record} {rest : List Record} {m m₁ m' : MergeReport} {h h₁ h' : Register}
      (first : ValueOutcome old new h q m m₁ h₁) (others : ValueSteps old new rest m₁ h₁ m' h') :
      ValueSteps old new (q :: rest) m h m' h'

/-- A merge that succeeds: the records concerned are those that hold the old number, if storage holds
it under a text. -/
inductive Merged (old new : Json) (w : Window) (g : Register) : MergeReport → Register → Prop where
  | nothing : Merged old new w g {} g
  | taken {number : String} {m : MergeReport} {h : Register}
      (held : Column.text old = .ok (some number))
      (steps : ValueSteps old new (affected g number w) {} g m h) : Merged old new w g m h

theorem isPlain_append {m : MergeReport} {w : Saved} :
    MergeReport.isPlain { m with renamed := m.renamed ++ [w] } = (m.isPlain && w.given.isPlain) := by
  simp [MergeReport.isPlain]

theorem ValueOutcome.isPlain {old new : Json} {h h' : Register} {q : Record} {m m' : MergeReport}
    (ho : ValueOutcome old new h q m m' h') (hplain : m'.isPlain = true) : m.isPlain = true := by
  cases ho with
  | collapsed _ _ => exact hplain
  | superseded _ _ _ _ _ => exact hplain
  | renamed _ _ _ _ _ =>
      rw [isPlain_append, Bool.and_eq_true] at hplain
      exact hplain.1

theorem ValueSteps.isPlain {old new : Json} {records : List Record} {h h' : Register}
    {m m' : MergeReport} (hs : ValueSteps old new records m h m' h') (hplain : m'.isPlain = true) :
    m.isPlain = true := by
  induction hs with
  | nil => exact hplain
  | cons first _ ih => exact first.isPlain (ih hplain)

/-- What no outcome with a plain report takes from the register, a merge with a plain report does not
take. -/
theorem Merged.keeps {old new : Json} {w : Window} {g h : Register} {m : MergeReport}
    {I : Register → Prop} (hm : Merged old new w g m h) (hplain : m.isPlain = true) (hg : I g)
    (hstep : ∀ q ∈ g.records, ∀ m h m' h', ValueOutcome old new h q m m' h' →
      m'.isPlain = true → I h → I h') : I h := by
  have hsteps {records : List Record} {m m' : MergeReport} {h h' : Register}
      (hrecords : ∀ q ∈ records, q ∈ g.records) (hs : ValueSteps old new records m h m' h')
      (hplain : m'.isPlain = true) (hh : I h) : I h' := by
    induction hs with
    | nil => exact hh
    | cons first others ih =>
        have hfirst := hstep _ (hrecords _ List.mem_cons_self) _ _ _ _ first
          (others.isPlain hplain) hh
        exact ih (fun q hq => hrecords q (List.mem_cons_of_mem _ hq)) hplain hfirst
  cases hm with
  | nothing => exact hg
  | taken _ steps => exact hsteps (fun _ hq => (mem_affected.1 hq).1) steps hplain hg

theorem ValueSteps.isTable {old new : Json} {records : List Record} {h h' : Register}
    {m m' : MergeReport} (hs : ValueSteps old new records m h m' h') (hh : h.IsTable) :
    h'.IsTable := by
  induction hs with
  | nil => exact hh
  | cons first _ ih => exact ih (first.isTable hh)

theorem Merged.isTable {old new : Json} {w : Window} {g h : Register} {m : MergeReport}
    (hm : Merged old new w g m h) (hg : g.IsTable) : h.IsTable := by
  cases hm with
  | nothing => exact hg
  | taken _ steps => exact steps.isTable hg

theorem isPlain_report {m : MergeResults} : m.report.isPlain = true := by
  simp only [MergeReport.isPlain, MergeResults.report, List.all_map, List.all_eq_true]
  exact fun _ _ => isPlain_draft

section Whole

variable {s t : Session} {w : Window}

theorem steps_of_foldlM {old new : Json} {α : Type} {f : α → Record → Action α}
    (report : α → MergeReport) (hstep : ∀ s t q a a', s.working.IsTable → (f a q).run s = .ok a' t →
      ValueOutcome old new s.working q (report a) (report a') t.working)
    {records : List Record} {a a' : α} (hs : s.working.IsTable)
    (h : (records.foldlM f a).run s = .ok a' t) :
    ValueSteps old new records (report a) s.working (report a') t.working := by
  induction records generalizing a s with
  | nil =>
      rw [List.foldlM_nil, pure_eq_ok] at h
      obtain ⟨rfl, rfl⟩ := h
      exact .nil
  | cons q rest ih =>
      rw [List.foldlM_cons, bind_eq_ok] at h
      obtain ⟨a₁, u, hfirst, h⟩ := h
      have ho := hstep s u q a a₁ hs hfirst
      exact .cons ho (ih (ho.isTable hs) h)

theorem merged_of_run {old new : String} {m : MergeResults} (hs : s.working.IsTable)
    (h : (run old new w).run s = .ok m t) :
    Merged (.str old) (.str new) w s.working m.report t.working := by
  simp only [run, bind_eq_ok, check_eq_ok, register_eq_ok] at h
  obtain ⟨_, _, ⟨-, rfl⟩, _, _, ⟨-, rfl, rfl⟩, h⟩ := h
  exact .taken rfl (steps_of_foldlM MergeResults.report (fun _ _ _ _ _ => outcome_of_step) hs h)

theorem merged_of_ofValues {old new : Json} {m : MergeReport} (hs : s.working.IsTable)
    (h : (ofValues old new w).run s = .ok m t) : Merged old new w s.working m t.working := by
  unfold ofValues at h
  split at h
  · obtain ⟨_, _, hrun, h⟩ := bind_eq_ok.1 h
    obtain ⟨rfl, rfl⟩ := pure_eq_ok.1 h
    exact merged_of_run hs hrun
  · simp only [runValues, bind_eq_ok, check_eq_ok, register_eq_ok, attempt_eq_ok] at h
    obtain ⟨_, _, ⟨-, rfl⟩, _, _, ⟨-, rfl, rfl⟩, held, _, ⟨hheld, rfl⟩, h⟩ := h
    cases held with
    | none =>
        obtain ⟨rfl, rfl⟩ := pure_eq_ok.1 h
        exact .nothing
    | some number =>
        exact .taken hheld (steps_of_foldlM id (fun _ _ _ _ _ => outcome_of_stepValues) hs h)

end Whole

end Merge

/-! ## Events -/

namespace PrisonerEvent

open KeepApart.Action

inductive BringsValue (e : PrisonerEvent) (new : Json) : Prop where
  | merged (kind : e.kind = mergedKind) (value : requireItem e.information "nomsNumber" = .ok new)
  | moved (kind : e.kind = bookingMovedKind)
      (value : requireItem e.information "movedToNomsNumber" = .ok new)

inductive Applied (e : PrisonerEvent) (g : Register) : Option MergeReport → Register → Prop where
  | ignored : Applied e g none g
  | merge {old new : Json} {w : Window} {m : MergeReport} {h : Register} (brings : e.BringsValue new)
      (merged : Merge.Merged old new w g m h) : Applied e g (some m) h

theorem Applied.isTable {e : PrisonerEvent} {g h : Register} {outcome : Option MergeReport}
    (ha : e.Applied g outcome h) (hg : g.IsTable) : h.IsTable := by
  cases ha with
  | ignored => exact hg
  | merge _ merged => exact merged.isTable hg

theorem applied_of_run {e : PrisonerEvent} {now : Moment} {s t : Session}
    {outcome : Option MergeReport} (hs : s.working.IsTable)
    (h : (e.apply now).run s = .ok outcome t) : e.Applied s.working outcome t.working := by
  unfold apply at h
  split at h
  · rename_i hkind
    simp only [bind_eq_ok, attempt_eq_ok, pure_eq_ok] at h
    obtain ⟨_, _, ⟨-, rfl⟩, new, _, ⟨hitem, rfl⟩, m, _, hrun, rfl, rfl⟩ := h
    exact .merge (.merged (beq_iff_eq.1 hkind) hitem) (Merge.merged_of_ofValues hs hrun)
  · split at h
    · rename_i hkind
      simp only [bind_eq_ok, attempt_eq_ok, pure_eq_ok] at h
      obtain ⟨_, _, ⟨-, rfl⟩, _, _, ⟨-, rfl⟩, new, _, ⟨hitem, rfl⟩, m, _, hrun, rfl, rfl⟩ := h
      exact .merge (.moved (beq_iff_eq.1 hkind) hitem) (Merge.merged_of_ofValues hs hrun)
    · obtain ⟨rfl, rfl⟩ := pure_eq_ok.1 h
      exact .ignored

end PrisonerEvent

end KeepApart
