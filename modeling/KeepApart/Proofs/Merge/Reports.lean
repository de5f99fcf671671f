import KeepApart.Proofs.Carried
import KeepApart.Proofs.Merge.Results
import KeepApart.Proofs.Merge.Values

/-!
# What a report says of the register

Whatever values name the numbers, the renamed records of a report and the survivors are stored as the
report has them, and no record has the id of a deleted one any more. A survivor that is itself still to
be taken stays as it is, since the pair that it is to get is the one that it has.
-/

namespace KeepApart.Merge

variable {old new : Json} {number : String} {w : Window} {g h h' : Register} {q r d : Record}
variable {rest : List Record} {m m' : MergeReport}

/-! ## Records that wait -/

/-- The records that are still to be taken: stored as they were, each under an id of its own, with the
old number on one side only. -/
structure Waiting (number : String) (rest : List Record) (h : Register) : Prop where
  table : h.IsTable
  stored : ∀ r ∈ rest, r ∈ h.records
  distinct : (rest.map (·.id)).Nodup
  concerned : ∀ r ∈ rest, r.involves number = true
  apart : ∀ r ∈ rest, r.firstNumber ≠ r.secondNumber

theorem waiting_affected (hg : g.IsSound) : Waiting number (affected g number w) g where
  table := hg.table
  stored := fun _ hr => (mem_affected.1 hr).1
  distinct := nodup_affected hg.table
  concerned := fun _ hr => (mem_affected.1 hr).2.involves
  apart := fun r hr => hg.pairs r (mem_affected.1 hr).1

namespace Waiting

variable (hw : Waiting number (q :: rest) h)
include hw

theorem head : q ∈ h.records := hw.stored q List.mem_cons_self

theorem id_ne (hr : r ∈ rest) : r.id ≠ q.id :=
  id_ne_of_distinct hw.distinct hr

theorem eq_head (hr : r ∈ h.records) (hid : r.id = q.id) : r = q :=
  hw.table.eq_of_id_eq hr hw.head hid

theorem eq_paired {v : Record} {p : String × String} (hv : h.Stores (q.paired p) v h') :
    v = q.paired p :=
  hv.eq_of_stored hw.head rfl hw.table

theorem others_iff (ho : ValueOutcome old new h q m m' h') (hr : r.id ≠ q.id) :
    r ∈ h'.records ↔ r ∈ h.records :=
  ho.others_iff hw.table hw.head hr

theorem tail (ho : ValueOutcome old new h q m m' h') : Waiting number rest h' where
  table := ho.isTable hw.table
  stored := fun r hr => (hw.others_iff ho (hw.id_ne hr)).2 (hw.stored r (List.mem_cons_of_mem _ hr))
  distinct := (List.nodup_cons.1 hw.distinct).2
  concerned := fun r hr => hw.concerned r (List.mem_cons_of_mem _ hr)
  apart := fun r hr => hw.apart r (List.mem_cons_of_mem _ hr)

theorem isDeleted (ho : ValueOutcome old new h q m m' h') (hd : IsDeleted h d) :
    IsDeleted h' d := by
  intro r hr hid
  by_cases hne : r.id = q.id
  · exact hd q hw.head (hne.symm.trans hid)
  · exact hd r ((hw.others_iff ho hne).1 hr) hid

end Waiting

/-! ## Survivors -/

structure StaysPut (old new : Json) (d : Record) : Prop where
  other : new.str? ≠ some (opposite old d)
  target : ∃ text, Column.text new = .ok (some text) ∧ target old d text = d.pair

/-- A record with the pair that a waiting one is to get is on the same side, if it is concerned at
all. -/
theorem isOnFirst_eq {text : String} (hold : Column.text old = .ok (some number))
    (hapart : q.firstNumber ≠ q.secondNumber) (hpair : d.pair = target old q text)
    (hd : d.involves number = true) : isOnFirst old d = isOnFirst old q := by
  unfold target opposite at hpair
  by_cases hfirst : isOnFirst old q = true
  · rw [if_pos hfirst, if_pos hfirst] at hpair
    obtain ⟨-, hsecond⟩ := Prod.mk.inj hpair
    have hstr : old.str? = some q.firstNumber := beq_iff_eq.1 hfirst
    have hnumber : number = q.firstNumber := by
      cases old with
      | str s =>
          obtain rfl : s = q.firstNumber := Option.some.inj hstr
          exact (Option.some.inj (Except.ok.inj hold)).symm
      | _ => cases hstr
    have hdfirst : d.firstNumber = q.firstNumber := by
      rcases Record.involves_iff.1 hd with hd | hd
      · exact hd.trans hnumber
      · exact absurd (hnumber.symm.trans (hd.symm.trans hsecond)) hapart
    rw [isOnFirst, isOnFirst, hdfirst]
  · rw [if_neg hfirst, if_neg hfirst] at hpair
    obtain ⟨hdfirst, -⟩ := Prod.mk.inj hpair
    rw [isOnFirst, isOnFirst, hdfirst]

theorem staysPut_of_target {text : String} (hold : Column.text old = .ok (some number))
    (hnew : Column.text new = .ok (some text)) (hapart : q.firstNumber ≠ q.secondNumber)
    (hother : new.str? ≠ some (opposite old q)) (hpair : d.pair = target old q text)
    (hd : d.involves number = true) : StaysPut old new d := by
  have hside : isOnFirst old d = isOnFirst old q := isOnFirst_eq hold hapart hpair hd
  have hopposite : opposite old d = opposite old q := by
    unfold target at hpair
    unfold opposite at hpair ⊢
    rw [hside]
    split at hpair
    all_goals
      obtain ⟨hfirst, hsecond⟩ := Prod.mk.inj hpair
      simp [*]
  refine ⟨?_, text, hnew, ?_⟩
  · rwa [hopposite]
  · rw [target, hside, hopposite, ← target, hpair]

/-! ## The report -/

/-- What the report has so far is as it has it, and will be when the rest was taken. -/
structure Reported (old new : Json) (number : String) (rest : List Record) (m : MergeReport)
    (h : Register) : Prop where
  renamed : ∀ v ∈ m.renamed, v.record ∈ h.records ∧ ∀ r ∈ rest, r.id ≠ v.record.id
  superseding : ∀ d ∈ m.superseding,
    IsFirst h d ∧ (d.involves number = true → StaysPut old new d)
  collapsed : ∀ d ∈ m.collapsed, IsDeleted h d ∧ ∃ n, d.id = some n ∧ Column.isStorable n = true

theorem reported_nil : Reported old new number rest {} g := by
  constructor <;> simp

section Next

variable (hw : Waiting number (q :: rest) h) (hr : Reported old new number (q :: rest) m h)
include hw hr

theorem Reported.renamed_next (ho : ValueOutcome old new h q m m' h') :
    ∀ v ∈ m.renamed, v.record ∈ h'.records ∧ ∀ r ∈ rest, r.id ≠ v.record.id := by
  intro v hv
  obtain ⟨hstored, hids⟩ := hr.renamed v hv
  have hid : v.record.id ≠ q.id := fun heq => hids q List.mem_cons_self heq.symm
  exact ⟨(hw.others_iff ho hid).2 hstored, fun r hr => hids r (List.mem_cons_of_mem _ hr)⟩

theorem Reported.collapsed_next (ho : ValueOutcome old new h q m m' h') :
    ∀ d ∈ m.collapsed, IsDeleted h' d ∧ ∃ n, d.id = some n ∧ Column.isStorable n = true :=
  fun d hd => ⟨hw.isDeleted ho (hr.collapsed d hd).1, (hr.collapsed d hd).2⟩

theorem Reported.staysPut (hd : d ∈ m.superseding) (hid : d.id = q.id) :
    IsFirst h q ∧ StaysPut old new q := by
  obtain ⟨hfirst, hstays⟩ := hr.superseding d hd
  obtain rfl := hw.eq_head hfirst.stored hid
  exact ⟨hfirst, hstays (hw.concerned d List.mem_cons_self)⟩

theorem Reported.collapse {n : Int} (hid : q.id = some n)
    (itself : new.str? = some (opposite old q)) :
    Reported old new number rest { m with collapsed := m.collapsed ++ [q] } (h.remove n) := by
  have ho : ValueOutcome old new h q m { m with collapsed := m.collapsed ++ [q] } (h.remove n) :=
    .collapsed hid itself
  have hrenamed := hr.renamed_next hw ho
  refine ⟨hrenamed, ?_, ?_⟩
  · intro d hd
    have hdid : d.id ≠ some n := by
      rw [← hid]
      intro heq
      exact (hr.staysPut hw hd heq).2.other itself
    exact ⟨(hr.superseding d hd).1.remove hdid, (hr.superseding d hd).2⟩
  · intro d hd
    rcases List.mem_append.1 hd with hd | hd
    · exact hr.collapsed_next hw ho d hd
    · obtain rfl := List.mem_singleton.1 hd
      refine ⟨?_, hw.table.exists_id hw.head⟩
      intro r hr
      rw [hid]
      exact (Register.mem_remove.1 hr).2

theorem Reported.supersede {n : Int} {text : String} (hold : Column.text old = .ok (some number))
    (hid : q.id = some n) (other : new.str? ≠ some (opposite old q))
    (hnew : Column.text new = .ok (some text))
    (found : h.withPair? (target old q text).1 (target old q text).2 = some r)
    (differs : r.id ≠ q.id) :
    Reported old new number rest (m.addSuperseding r) (h.remove n) := by
  have ho : ValueOutcome old new h q m (m.addSuperseding r) (h.remove n) :=
    .superseded hid other hnew found differs
  have hfirst : IsFirst h r := isFirst_of_withPair? hw.table found
  have hpair : r.pair = target old q text := (Register.withPair?_eq_some found).2
  have hrenamed := hr.renamed_next hw ho
  have hcollapsed := hr.collapsed_next hw ho
  rw [hid] at differs
  refine ⟨hrenamed, ?_, hcollapsed⟩
  intro d hd
  rcases mem_or_eq_of_mem_addOnce hd with hd | rfl
  · have hdid : d.id ≠ some n := by
      -- The one that stays put would have been found instead.
      rw [← hid]
      intro heq
      obtain ⟨hq, -, text', hnew', htarget⟩ := hr.staysPut hw hd heq
      obtain rfl := Option.some.inj (Except.ok.inj (hnew'.symm.trans hnew))
      obtain rfl := hfirst.eq hw.table hq (hpair.trans htarget)
      exact differs hid
    exact ⟨(hr.superseding d hd).1.remove hdid, (hr.superseding d hd).2⟩
  · refine ⟨hfirst.remove differs, ?_⟩
    exact staysPut_of_target hold hnew (hw.apart q List.mem_cons_self) other hpair

theorem Reported.rename {text : String} {v : Saved} (other : new.str? ≠ some (opposite old q))
    (hnew : Column.text new = .ok (some text))
    (free : ∀ d, h.withPair? (target old q text).1 (target old q text).2 = some d → d.id = q.id)
    (stores : h.Stores (q.paired (target old q text)) v.record h')
    (plain : v.given.isPlain = true → new = .str text) :
    Reported old new number rest { m with renamed := m.renamed ++ [v] } h' := by
  have ho : ValueOutcome old new h q m { m with renamed := m.renamed ++ [v] } h' :=
    .renamed other hnew free stores plain
  have hv : v.record = q.paired (target old q text) := hw.eq_paired stores
  have hcollapsed := hr.collapsed_next hw ho
  refine ⟨?_, ?_, hcollapsed⟩
  · intro u hu
    rcases List.mem_append.1 hu with hu | hu
    · exact hr.renamed_next hw ho u hu
    · obtain rfl := List.mem_singleton.1 hu
      refine ⟨(stores.update.mem_iff _).2 (.inl rfl), ?_⟩
      intro r hr
      rw [hv]
      exact hw.id_ne hr
  · intro d hd
    obtain ⟨hfirst, hstays⟩ := hr.superseding d hd
    refine ⟨?_, hstays⟩
    by_cases hid : d.id = q.id
    · -- The survivor is renamed to what it is.
      obtain ⟨hq, -, text', hnew', htarget⟩ := hr.staysPut hw hd hid
      obtain rfl := Option.some.inj (Except.ok.inj (hnew'.symm.trans hnew))
      obtain rfl := hw.eq_head hfirst.stored hid
      have hsame : v.record = d := by
        rw [hv, htarget]
        rfl
      refine ⟨(stores.update.mem_iff d).2 (.inl hsame.symm), ?_⟩
      intro e he hpair
      rcases (stores.update.mem_iff e).1 he with rfl | ⟨he, -⟩
      · rw [hsame]
        exact Register.id_lt_irrefl _
      · exact hfirst.first e he hpair
    · refine hfirst.update stores.update ?_ ?_
      · rw [hv]
        exact hid
      · -- The survivor has the first place under its pair, so the record would have left it to it.
        intro hpair
        rw [hv] at hpair
        have htarget : d.pair = target old q text := hpair.symm
        cases hfound : h.withPair? (target old q text).1 (target old q text).2 with
        | none => exact Register.withPair?_eq_none_iff.1 hfound d hfirst.stored htarget
        | some r =>
            have hr := isFirst_of_withPair? hw.table hfound
            have hrpair := (Register.withPair?_eq_some hfound).2
            obtain rfl := hfirst.eq hw.table hr (htarget.trans hrpair.symm)
            exact hid (free d hfound)

theorem Reported.step (hold : Column.text old = .ok (some number))
    (ho : ValueOutcome old new h q m m' h') : Reported old new number rest m' h' := by
  cases ho with
  | collapsed id itself => exact hr.collapse hw id itself
  | superseded id other held found differs => exact hr.supersede hw hold id other held found differs
  | renamed other held free stores plain => exact hr.rename hw other held free stores plain

end Next

theorem ValueSteps.reported (hold : Column.text old = .ok (some number))
    (hs : ValueSteps old new rest m h m' h') (hw : Waiting number rest h)
    (hr : Reported old new number rest m h) : Reported old new number [] m' h' := by
  induction hs with
  | nil => exact hr
  | cons first _ ih => exact ih (hw.tail first) (hr.step hw hold first)

theorem Merged.reported (hm : Merged old new w g m h) (hg : g.IsSound) :
    (∀ v ∈ m.renamed, v.record ∈ h.records) ∧ (∀ d ∈ m.superseding, d ∈ h.records) ∧
      ∀ d ∈ m.collapsed, IsDeleted h d ∧ ∃ n, d.id = some n ∧ Column.isStorable n = true := by
  cases hm with
  | nothing => simp
  | taken held steps =>
      have hr := steps.reported held (waiting_affected hg) reported_nil
      exact ⟨fun v hv => (hr.renamed v hv).1, fun d hd => (hr.superseding d hd).1.stored,
        hr.collapsed⟩

/-! ## Sound registers -/

/-- As long as the report is plain, no outcome leaves a record of one prisoner with themselves. -/
theorem ValueOutcome.isSound (ho : ValueOutcome old new h q m m' h') (hplain : m'.isPlain = true)
    (hh : h.IsSound) : h'.IsSound := by
  cases ho with
  | @collapsed n _ _ | @superseded n _ _ _ _ _ _ _ =>
      refine ⟨hh.table.remove n, ?_, ?_⟩
      · exact fun r hr => hh.closures r (Register.mem_remove.1 hr).1
      · exact fun r hr => hh.pairs r (Register.mem_remove.1 hr).1
  | @renamed text w _ other _ _ stores plain =>
      rw [isPlain_append, Bool.and_eq_true] at hplain
      rw [plain hplain.2] at other
      have hne : text ≠ opposite old q := fun heq => other (congrArg some heq)
      have hself : (target old q text).1 ≠ (target old q text).2 := by
        unfold target
        split
        · exact hne
        · exact hne.symm
      have hpair : w.record.firstNumber ≠ w.record.secondNumber := by
        rcases stores.origin with ⟨-, heq⟩ | ⟨heq, -⟩ <;>
        · rw [heq]
          exact hself
      refine ⟨stores.update.table, ?_, stores.update.all hh.pairs hpair⟩
      exact stores.update.all hh.closures stores.closure

theorem Merged.isSound (hm : Merged old new w g m h) (hplain : m.isPlain = true) (hg : g.IsSound) :
    h.IsSound :=
  hm.keeps hplain hg fun _ _ _ _ _ _ ho hplain hh => ho.isSound hplain hh

end KeepApart.Merge
