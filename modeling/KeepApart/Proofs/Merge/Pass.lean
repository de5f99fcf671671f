import KeepApart.Proofs.Merge.Step

/-!
# A merge as a whole

A merge decides each record against what the records before it left behind. What it leaves in the end
can be told from the register at the start: a concerned record survives, renamed, when its counterpart
is another than the new number, the pair it would get is free and it is the first concerned one of its
pair.
-/

namespace KeepApart.Merge

open KeepApart.Action

variable {g h h' : Register} {old new : String} {w : Window} {done rest : List Record}
variable {q r : Record} {m m' : MergeResults}

def Concerns (old : String) (w : Window) (r : Record) : Prop :=
  (r.firstNumber = old ∨ r.secondNumber = old) ∧
    (∀ since ∈ w.since, since ≤ r.whenCreated) ∧ ∀ limit ∈ w.until?, r.whenCreated ≤ limit

theorem concerns_unbounded {r : Record} :
    Concerns old {} r ↔ r.firstNumber = old ∨ r.secondNumber = old := by
  simp [Concerns]

theorem mem_affected : r ∈ affected g old w ↔ r ∈ g.records ∧ Concerns old w r := by
  have hwindow : w.contains r.whenCreated = true ↔
      (∀ since ∈ w.since, since ≤ r.whenCreated) ∧ ∀ limit ∈ w.until?, r.whenCreated ≤ limit := by
    obtain ⟨since, limit⟩ := w
    cases since <;> cases limit <;> simp [Window.contains]
  rw [affected, List.mem_filter, Register.involving, List.mem_filter, Record.involves_iff, hwindow,
    Concerns, and_assoc]

theorem affected_ascending (hg : g.IsTable) :
    (affected g old w).Pairwise fun a b => a.id < b.id :=
  hg.ascending_of_sublist (List.filter_sublist.trans List.filter_sublist)

theorem nodup_affected (hg : g.IsTable) : ((affected g old w).map (·.id)).Nodup :=
  hg.nodup_ids.sublist ((List.filter_sublist.trans List.filter_sublist).map _)

/-- A concerned record survives when the number opposite to the old one is not the new one, no record
has the pair it is to get, and no concerned record of its own pair has a smaller id. -/
structure Survives (g : Register) (old new : String) (w : Window) (q : Record) : Prop where
  stored : q ∈ g.records
  concerned : Concerns old w q
  other : q.other? old ≠ some new
  free : ∀ e ∈ g.records, e.pair ≠ (q.substitute old new).pair
  first : ∀ e ∈ g.records, Concerns old w e → e.pair = q.pair → ¬ e.id < q.id

theorem Concerns.involves (hq : Concerns old w q) : q.involves old = true :=
  Record.involves_iff.2 hq.1

theorem Survives.counterpart_ne (hq : Survives g old new w q) : q.counterpart old ≠ new := by
  intro heq
  apply hq.other
  rw [Record.other?_eq_counterpart hq.concerned.involves, heq]

/-- What stands in the register `h` once the records of `done` were merged. Each of them that is not
collapsed has left its new pair to some record. -/
structure Progress (g : Register) (old new : String) (w : Window) (done : List Record)
    (h : Register) : Prop where
  table : h.IsTable
  mem_iff : ∀ r, r ∈ h.records ↔
    (r ∈ g.records ∧ r ∉ done) ∨ ∃ q ∈ done, Survives g old new w q ∧ r = q.substitute old new
  covered : ∀ q ∈ done, q.counterpart old ≠ new →
    ∃ r ∈ h.records, r.pair = (q.substitute old new).pair

theorem progress_nil (hg : g.IsTable) : Progress g old new w [] g := by
  refine ⟨hg, ?_, ?_⟩ <;> simp

/-! ## The next record -/

section Next

variable {d : Record} (hsplit : affected g old w = done ++ q :: rest)
include hsplit

theorem mem_of_split : q ∈ g.records ∧ Concerns old w q :=
  mem_affected.1 (by rw [hsplit]; simp)

theorem mem_of_done (hd : d ∈ done) : d ∈ g.records ∧ Concerns old w d :=
  mem_affected.1 (by rw [hsplit]; exact List.mem_append_left _ hd)

theorem id_lt_of_done (hg : g.IsTable) (hd : d ∈ done) : d.id < q.id := by
  have hascending : (affected g old w).Pairwise fun a b => a.id < b.id := affected_ascending hg
  rw [hsplit, List.pairwise_append] at hascending
  exact hascending.2.2 d hd q (by simp)

theorem id_ne_of_done (hg : g.IsTable) (hd : d ∈ done) : d.id ≠ q.id := by
  intro heq
  have hlt := id_lt_of_done hsplit hg hd
  rw [heq] at hlt
  exact Register.id_lt_irrefl _ hlt

/-- The concerned records with smaller ids come before. -/
theorem mem_done_of_id_lt (hg : g.IsTable) (hd : d ∈ g.records) (hconcerned : Concerns old w d)
    (hlt : d.id < q.id) : d ∈ done := by
  have hascending : (affected g old w).Pairwise fun a b => a.id < b.id := affected_ascending hg
  have hmem : d ∈ affected g old w := mem_affected.2 ⟨hd, hconcerned⟩
  rw [hsplit, List.pairwise_append, List.pairwise_cons] at hascending
  rw [hsplit, List.mem_append, List.mem_cons] at hmem
  rcases hmem with hdone | rfl | hrest
  · exact hdone
  · exact absurd hlt (Register.id_lt_irrefl _)
  · exact absurd (hascending.2.1.1 d hrest) (Register.id_lt_asymm hlt)

variable (hp : Progress g old new w done h)
include hp

theorem Progress.mem_next (hg : g.IsTable) : q ∈ h.records := by
  have hfresh : q ∉ done := fun hq => id_ne_of_done hsplit hg hq rfl
  exact (hp.mem_iff q).2 (.inl ⟨(mem_of_split hsplit).1, hfresh⟩)

/-- The other records of the register are those that stay when the next one is removed or replaced. -/
theorem Progress.others_iff (hg : g.IsTable) : r ∈ h.records ∧ r.id ≠ q.id ↔
    (r ∈ g.records ∧ r ∉ done ++ [q]) ∨
      ∃ d ∈ done, Survives g old new w d ∧ r = d.substitute old new := by
  have hq := (mem_of_split hsplit).1
  rw [hp.mem_iff, List.mem_append, List.mem_singleton]
  constructor
  · rintro ⟨⟨hr, hdone⟩ | hsurvives, hid⟩
    · refine .inl ⟨hr, ?_⟩
      rintro (hr' | rfl)
      · exact hdone hr'
      · exact hid rfl
    · exact .inr hsurvives
  · rintro (⟨hr, hdone⟩ | ⟨d, hd, hsurvives, rfl⟩)
    · refine ⟨.inl ⟨hr, fun hr' => hdone (.inl hr')⟩, ?_⟩
      intro heq
      exact hdone (.inr (hg.eq_of_id_eq hr hq heq))
    · have hid : d.id ≠ q.id := id_ne_of_done hsplit hg hd
      exact ⟨.inr ⟨d, hd, hsurvives, rfl⟩, hid⟩

variable (hne : old ≠ new)
include hne

theorem Progress.covered_others (hg : g.IsTable) (hd : d ∈ done) (hother : d.counterpart old ≠ new) :
    ∃ r, (r ∈ h.records ∧ r.id ≠ q.id) ∧ r.pair = (d.substitute old new).pair := by
  obtain ⟨r, hr, hpair⟩ := hp.covered d hd hother
  refine ⟨r, ⟨hr, ?_⟩, hpair⟩
  intro heq
  rw [hp.table.eq_of_id_eq hr (hp.mem_next hsplit hg) heq] at hpair
  exact Record.pair_ne_substitute (mem_of_split hsplit).2.involves hne hpair

theorem Progress.survives_of_free (hg : g.IsTable) (hother : q.counterpart old ≠ new)
    (hfree : ∀ e ∈ h.records, e.pair ≠ (q.substitute old new).pair) : Survives g old new w q where
  stored := (mem_of_split hsplit).1
  concerned := (mem_of_split hsplit).2
  other := by
    rw [Record.other?_eq_counterpart (mem_of_split hsplit).2.involves]
    exact fun heq => hother (Option.some.inj heq)
  free := by
    -- A record of `g` with the new pair does not mention the old number, so it is still there.
    intro e he hpair
    have hfresh : e ∉ done := by
      intro hdone
      exact Record.pair_ne_substitute (mem_of_done hsplit hdone).2.involves hne hpair
    exact hfree e ((hp.mem_iff e).2 (.inl ⟨he, hfresh⟩)) hpair
  first := by
    -- An earlier record of the pair would have left the new pair to some record.
    intro e he hconcerned hpair hlt
    have hdone := mem_done_of_id_lt hsplit hg he hconcerned hlt
    obtain ⟨hfirst, hsecond⟩ := Prod.mk.inj hpair
    have hother' : e.counterpart old ≠ new := by
      rwa [Record.counterpart, hfirst, hsecond, ← Record.counterpart]
    obtain ⟨r, hr, hr'⟩ := hp.covered e hdone hother'
    have hsame : (e.substitute old new).pair = (q.substitute old new).pair := by
      rw [Record.pair_substitute, Record.pair_substitute, hfirst, hsecond]
    exact hfree r hr (hr'.trans hsame)

theorem Progress.not_survives (hg : g.IsTable) (hr : r ∈ h.records)
    (hpair : r.pair = (q.substitute old new).pair) : ¬ Survives g old new w q := by
  intro hq
  rcases (hp.mem_iff r).1 hr with ⟨hr, -⟩ | ⟨d, hd, hsurvives, rfl⟩
  · exact hq.free r hr hpair
  · have hnew := Record.not_involves_of_counterpart hq.concerned.involves hne hq.counterpart_ne
    have hnew' := Record.not_involves_of_counterpart hsurvives.concerned.involves hne
      hsurvives.counterpart_ne
    have hsame := Record.pair_eq_of_substitute hnew' hnew hpair
    exact hq.first d hsurvives.stored hsurvives.concerned hsame (id_lt_of_done hsplit hg hd)

theorem Progress.remove {n : Int} (hg : g.IsTable) (hid : q.id = some n)
    (hlost : ¬ Survives g old new w q)
    (hcovered : q.counterpart old ≠ new →
      ∃ r ∈ h.records, r.id ≠ q.id ∧ r.pair = (q.substitute old new).pair) :
    Progress g old new w (done ++ [q]) (h.remove n) where
  table := hp.table.remove n
  mem_iff := by
    intro r
    rw [Register.mem_remove, ← hid, hp.others_iff hsplit hg]
    simp only [List.mem_append, List.mem_singleton]
    constructor
    · rintro (hr | ⟨d, hd, hr⟩)
      · exact .inl hr
      · exact .inr ⟨d, .inl hd, hr⟩
    · rintro (hr | ⟨d, hd | rfl, hsurvives, hr⟩)
      · exact .inl hr
      · exact .inr ⟨d, hd, hsurvives, hr⟩
      · exact absurd hsurvives hlost
  covered := by
    intro d hd hother
    simp only [Register.mem_remove, ← hid]
    rcases List.mem_append.1 hd with hd | hd
    · exact hp.covered_others hsplit hne hg hd hother
    · obtain rfl := List.mem_singleton.1 hd
      obtain ⟨r, hr, hid, hpair⟩ := hcovered hother
      exact ⟨r, ⟨hr, hid⟩, hpair⟩

theorem Progress.replace (hg : g.IsTable) (hsurvives : Survives g old new w q) :
    Progress g old new w (done ++ [q]) (h.replace (q.substitute old new)) := by
  have hq := hp.mem_next hsplit hg
  have hupdate := hp.table.isUpdate_replace (r := q.substitute old new) hq rfl
  refine ⟨hupdate.table, ?_, ?_⟩
  · intro r
    have hid : (q.substitute old new).id = q.id := rfl
    rw [hupdate.mem_iff, hid, hp.others_iff hsplit hg]
    simp only [List.mem_append, List.mem_singleton]
    constructor
    · rintro (rfl | hr | ⟨d, hd, hr⟩)
      · exact .inr ⟨q, .inr rfl, hsurvives, rfl⟩
      · exact .inl hr
      · exact .inr ⟨d, .inl hd, hr⟩
    · rintro (hr | ⟨d, hd | rfl, hd', hr⟩)
      · exact .inr (.inl hr)
      · exact .inr (.inr ⟨d, hd, hd', hr⟩)
      · exact .inl hr
  · intro d hd hother
    simp only [hupdate.mem_iff]
    rcases List.mem_append.1 hd with hd | hd
    · obtain ⟨r, hr, hpair⟩ := hp.covered_others hsplit hne hg hd hother
      exact ⟨r, .inr hr, hpair⟩
    · obtain rfl := List.mem_singleton.1 hd
      exact ⟨d.substitute old new, .inl rfl, rfl⟩

theorem Progress.step (hg : g.IsTable) (ho : Outcome old new h q m m' h') :
    Progress g old new w (done ++ [q]) h' := by
  have hq := hp.mem_next hsplit hg
  cases ho with
  | collapsed id itself =>
      refine hp.remove hsplit hne hg id ?_ ?_
      · intro hsurvives
        exact hsurvives.counterpart_ne itself
      · intro hother
        exact absurd itself hother
  | superseded id other found =>
      obtain ⟨hstored, hpair⟩ := Register.withPair?_eq_some found
      refine hp.remove hsplit hne hg id (hp.not_survives hsplit hne hg hstored hpair) ?_
      intro _
      refine ⟨_, hstored, ?_, hpair⟩
      intro heq
      rw [hp.table.eq_of_id_eq hstored hq heq] at hpair
      exact Record.pair_ne_substitute (mem_of_split hsplit).2.involves hne hpair
  | renamed other free =>
      exact hp.replace hsplit hne hg (hp.survives_of_free hsplit hne hg other free)

end Next

/-! ## The whole pass -/

/-- The records of `done` were merged in this order, and the register `g` became `h`. -/
inductive Passed (old new : String) (g : Register) :
    List Record → MergeResults → Register → Prop where
  | nil : Passed old new g [] {} g
  | snoc {done : List Record} {m m' : MergeResults} {h h' : Register} {q : Record}
      (before : Passed old new g done m h) (next : Outcome old new h q m m' h') :
      Passed old new g (done ++ [q]) m' h'

theorem Passed.progress (hg : g.IsTable) (hne : old ≠ new) (hp : Passed old new g done m h)
    (hsplit : affected g old w = done ++ rest) : Progress g old new w done h := by
  induction hp generalizing rest with
  | nil => exact progress_nil hg
  | snoc before next ih =>
      rw [List.append_assoc] at hsplit
      exact (ih hsplit).step hsplit hne hg next

theorem exists_foldlM_passed {s : Session} (hs : s.isBroken = false) (hg : g.IsSound)
    (hne : old ≠ new) (hsplit : affected g old w = done ++ rest)
    (hp : Passed old new g done m s.working) :
    ∃ m' h', (rest.foldlM (step old new) m).run s = .ok m' { s with working := h' } ∧
      Passed old new g (done ++ rest) m' h' := by
  -- On the records that are left; what was done so far says that the next one is still stored.
  induction rest generalizing done m s with
  | nil =>
      rw [List.append_nil]
      exact ⟨m, s.working, rfl, hp⟩
  | cons q rest ih =>
      obtain ⟨hq, hconcerned⟩ := mem_of_split hsplit
      have hprogress := hp.progress hg.table hne hsplit
      obtain ⟨m₁, h₁, hrun, hnext⟩ := exists_outcome (m := m) hs hprogress.table
        (hprogress.mem_next hsplit hg.table) (hg.closures q hq) (hg.pairs q hq)
        hconcerned.involves hne
      have hsplit' : affected g old w = (done ++ [q]) ++ rest := by
        rw [hsplit, List.append_assoc]
        rfl
      obtain ⟨m', h', hrun', hp'⟩ := ih (s := { s with working := h₁ }) hs hsplit' (hp.snoc hnext)
      refine ⟨m', h', ?_, ?_⟩
      · rw [List.foldlM_cons, bind_eq_ok]
        exact ⟨m₁, _, hrun, hrun'⟩
      · rw [List.append_assoc] at hp'
        exact hp'

theorem checkNumbers_eq_ok : checkNumbers old new = .ok () ↔ old ≠ "" ∧ new ≠ "" ∧ old ≠ new := by
  unfold checkNumbers
  by_cases hold : old = ""
  · simp [hold]
  · by_cases hnew : new = ""
    · simp [hnew]
    · by_cases hne : old = new
      · simp [hne, hnew]
      · simp [hold, hnew, hne]

theorem exists_run_passed {s : Session} (hs : s.isBroken = false) (hg : s.working.IsSound)
    (hold : old ≠ "") (hnew : new ≠ "") (hne : old ≠ new) (w : Window) :
    ∃ m h, (run old new w).run s = .ok m { s with working := h } ∧
      Passed old new s.working (affected s.working old w) m h := by
  have hsplit : affected s.working old w = [] ++ affected s.working old w := rfl
  obtain ⟨m, h, hrun, hp⟩ := exists_foldlM_passed hs hg hne hsplit .nil
  refine ⟨m, h, ?_, hp⟩
  unfold run
  rw [bind_eq_ok]
  refine ⟨(), s, check_eq_ok.2 ⟨checkNumbers_eq_ok.2 ⟨hold, hnew, hne⟩, rfl⟩, ?_⟩
  rw [bind_eq_ok]
  exact ⟨_, s, register_eq_ok.2 ⟨hs, rfl, rfl⟩, hrun⟩

end KeepApart.Merge
