import KeepApart.Proofs.Merge.Pass

/-!
# What a merge leaves

A merge leaves the records that it does not concern as they were, and the survivors renamed. For a third
prisoner this says when the new number is kept apart from that prisoner: as before, or because the first
record of the old number was open and no record of the new number stood in its way.
-/

namespace KeepApart.Merge

open KeepApart.Action

variable {g h : Register} {old new x : String} {w : Window} {s : Session} {m : MergeResults}

theorem Progress.mem_iff_affected (hp : Progress g old new w (affected g old w) h) (r : Record) :
    r ∈ h.records ↔ (r ∈ g.records ∧ ¬ Concerns old w r) ∨
      ∃ q, Survives g old new w q ∧ r = q.substitute old new := by
  rw [hp.mem_iff, mem_affected]
  constructor
  · rintro (⟨hr, hconcerned⟩ | ⟨q, -, hq⟩)
    · exact .inl ⟨hr, fun hr' => hconcerned ⟨hr, hr'⟩⟩
    · exact .inr ⟨q, hq⟩
  · rintro (⟨hr, hconcerned⟩ | ⟨q, hsurvives, hr⟩)
    · exact .inl ⟨hr, fun hr' => hconcerned hr'.2⟩
    · exact .inr ⟨q, mem_affected.2 ⟨hsurvives.stored, hsurvives.concerned⟩, hsurvives, hr⟩

theorem exists_run_progress (hs : s.isBroken = false) (hg : s.working.IsSound) (hold : old ≠ "")
    (hnew : new ≠ "") (hne : old ≠ new) (w : Window) :
    ∃ m h, (run old new w).run s = .ok m { s with working := h } ∧
      Progress s.working old new w (affected s.working old w) h := by
  obtain ⟨m, h, hrun, hp⟩ := exists_run_passed hs hg hold hnew hne w
  exact ⟨m, h, hrun, hp.progress hg.table hne (List.append_nil _).symm⟩

/-- A survivor has the old number opposite to a third one. -/
theorem Survives.sides {q : Record} (hq : Survives g old new w q) (hg : g.IsSound)
    (hne : old ≠ new) : ∃ x, x ≠ old ∧ x ≠ new ∧ (q.pair = (old, x) ∨ q.pair = (x, old)) := by
  have hself := hg.pairs q hq.stored
  obtain ⟨hfirst, hsecond⟩ := Record.not_involves_of_counterpart hq.concerned.involves hne
    hq.counterpart_ne
  rcases hq.concerned.1 with hold | hold
  · have hother : q.secondNumber ≠ old := fun heq => hself (hold.trans heq.symm)
    exact ⟨q.secondNumber, hother, hsecond, .inl (by rw [Record.pair, hold])⟩
  · have hother : q.firstNumber ≠ old := fun heq => hself (heq.trans hold.symm)
    exact ⟨q.firstNumber, hother, hfirst, .inr (by rw [Record.pair, hold])⟩

theorem Survives.id_eq {q q' : Record} (hq : Survives g old new w q) (hq' : Survives g old new w q')
    (hne : old ≠ new) (h : (q.substitute old new).pair = (q'.substitute old new).pair) :
    q.id = q'.id := by
  have hnew := Record.not_involves_of_counterpart hq.concerned.involves hne hq.counterpart_ne
  have hnew' := Record.not_involves_of_counterpart hq'.concerned.involves hne hq'.counterpart_ne
  have hsame := Record.pair_eq_of_substitute hnew hnew' h
  exact Register.id_eq_of_not_lt (hq'.first q hq.stored hq.concerned hsame)
    (hq.first q' hq'.stored hq'.concerned hsame.symm)

theorem Progress.isSound (hp : Progress g old new w (affected g old w) h) (hg : g.IsSound)
    (hne : old ≠ new) : h.IsSound := by
  refine ⟨hp.table, ?_, ?_⟩
  · intro r hr
    rcases (hp.mem_iff_affected r).1 hr with ⟨hr, -⟩ | ⟨q, hq, rfl⟩
    · exact hg.closures r hr
    · exact hg.closures q hq.stored
  · intro r hr
    rcases (hp.mem_iff_affected r).1 hr with ⟨hr, -⟩ | ⟨q, hq, rfl⟩
    · exact hg.pairs r hr
    · obtain ⟨x, hxo, hxn, hpair | hpair⟩ := hq.sides hg hne
      · have hsub : (q.substitute old new).pair = (new, x) := (Record.old_first hxo q hpair).2.2
        obtain ⟨hfirst, hsecond⟩ := Prod.mk.inj hsub
        rw [hfirst, hsecond]
        exact hxn.symm
      · have hsub : (q.substitute old new).pair = (x, new) := (Record.old_second hxo q hpair).2.2
        obtain ⟨hfirst, hsecond⟩ := Prod.mk.inj hsub
        rw [hfirst, hsecond]
        exact hxn

/-- A merge of two different numbers succeeds on a sound register. It leaves exactly the records that it
does not concern, as they were, and the survivors, each renamed and otherwise as it was. -/
theorem run_mem_iff (hs : s.isBroken = false) (hg : s.working.IsSound) (hold : old ≠ "")
    (hnew : new ≠ "") (hne : old ≠ new) (w : Window) :
    ∃ m h, (run old new w).run s = .ok m { s with working := h } ∧ h.IsTable ∧
      ∀ r, r ∈ h.records ↔ (r ∈ s.working.records ∧ ¬ Concerns old w r) ∨
        ∃ q, Survives s.working old new w q ∧ r = q.substitute old new := by
  obtain ⟨m, h, hrun, hp⟩ := exists_run_progress hs hg hold hnew hne w
  exact ⟨m, h, hrun, hp.table, hp.mem_iff_affected⟩

def plain (id : Int) (first second : String) : Record where
  id := some id
  firstNumber := first
  firstRole := .unknown
  secondNumber := second
  secondRole := .unknown
  reason := .other
  restriction := .cell
  comment := "Kept apart"
  authorisedBy := none
  whenCreated := Moment.earliest
  whenUpdated := Moment.earliest
  updatedBy := "USER"
  isClosed := false
  closedBy := none
  closedReason := none
  closedAt := none

/-- The first record pairs the two numbers of a merge, the second one of them with a third number. -/
def couple : Register := ⟨[plain 1 "A1" "B2", plain 2 "A1" "C3"]⟩

theorem isSound_couple : couple.IsSound := by
  refine ⟨⟨?_, ?_⟩, by decide, by decide⟩ <;>
    simp [couple, plain, Register.ids, Column.isStorable]

theorem survives_couple : Survives couple "A1" "B2" {} (plain 2 "A1" "C3") := by
  refine ⟨by decide, concerns_unbounded.2 (by decide), by decide, by decide, ?_⟩
  intro e he _ hpair
  simp only [couple, List.mem_cons, List.not_mem_nil, or_false] at he
  rcases he with rfl | rfl
  · exact absurd hpair (by decide)
  · exact Register.id_lt_irrefl _

theorem run_mem_iff_couple : couple.IsSound ∧
    ∃ m h, (run "A1" "B2" {}).run (Session.start couple) =
        .ok m { Session.start couple with working := h } ∧
      plain 1 "A1" "B2" ∉ h.records ∧ plain 2 "B2" "C3" ∈ h.records := by
  have hne : "A1" ≠ "B2" := by decide
  obtain ⟨m, h, hrun, -, hmem⟩ := run_mem_iff (s := Session.start couple) rfl isSound_couple
    (by decide) (by decide) hne {}
  refine ⟨isSound_couple, m, h, hrun, ?_, (hmem _).2 (.inr ⟨_, survives_couple, rfl⟩)⟩
  rw [hmem]
  rintro (⟨-, hconcerned⟩ | ⟨q, hq, heq⟩)
  · exact hconcerned (concerns_unbounded.2 (by decide))
  · have hinvolves : (plain 1 "A1" "B2").involves "A1" = true := by decide
    exact Record.pair_ne_substitute hinvolves hne (congrArg Record.pair heq)

/-! ## Protection -/

def IsProtected (g : Register) (a b : String) : Prop :=
  ∃ r ∈ g.records, r.isOpen = true ∧ (r.pair = (a, b) ∨ r.pair = (b, a))

/-- The first record of the pair `p` is open, and no record, open or closed, has the pair `p'`. -/
def PassesTo (g : Register) (p p' : String × String) : Prop :=
  ∃ r ∈ g.records, r.isOpen = true ∧ r.pair = p ∧ (∀ e ∈ g.records, e.pair ≠ p') ∧
    ∀ e ∈ g.records, e.pair = p → ¬ e.id < r.id

theorem Survives.passesTo {q : Record} (hq : Survives g old new {} q) (hopen : q.isOpen = true) :
    PassesTo g q.pair (q.substitute old new).pair := by
  refine ⟨q, hq.stored, hopen, rfl, hq.free, ?_⟩
  intro e he hsame
  refine hq.first e he ?_ hsame
  obtain ⟨hfirst, hsecond⟩ := Prod.mk.inj hsame
  rw [concerns_unbounded, hfirst, hsecond]
  exact hq.concerned.1

/-- Where the protection of a pair with the old number passes on, an open record survives. -/
theorem PassesTo.exists_survivor {p p' : String × String} (hp : PassesTo g p p')
    (hsides : ∀ q : Record, q.pair = p →
      q.involves old = true ∧ q.counterpart old = x ∧ (q.substitute old new).pair = p')
    (hx : x ≠ new) :
    ∃ q, Survives g old new {} q ∧ q.isOpen = true ∧ (q.substitute old new).pair = p' := by
  obtain ⟨q, hq, hopen, hpair, hfree, hfirst⟩ := hp
  obtain ⟨hinvolves, hother, hpair'⟩ := hsides q hpair
  refine ⟨q, ⟨hq, concerns_unbounded.2 (Record.involves_iff.1 hinvolves), ?_, ?_, ?_⟩, hopen, hpair'⟩
  · rw [Record.other?_eq_counterpart hinvolves, hother]
    exact fun heq => hx (Option.some.inj heq)
  · rw [hpair']
    exact hfree
  · intro e he _ hsame
    exact hfirst e he (hsame.trans hpair)

theorem isProtected_of_survivor {p : String × String}
    (hp : Progress g old new {} (affected g old {}) h) (hpair : p = (new, x) ∨ p = (x, new))
    (hq : ∃ q, Survives g old new {} q ∧ q.isOpen = true ∧ (q.substitute old new).pair = p) :
    IsProtected h new x := by
  obtain ⟨q, hsurvives, hopen, rfl⟩ := hq
  exact ⟨q.substitute old new, (hp.mem_iff_affected _).2 (.inr ⟨q, hsurvives, rfl⟩), hopen, hpair⟩

theorem not_concerns_of_pair {r : Record} (hne : old ≠ new) (hx : x ≠ old)
    (hpair : r.pair = (new, x) ∨ r.pair = (x, new)) : ¬ Concerns old {} r := by
  rw [concerns_unbounded]
  rcases hpair with hpair | hpair
  · obtain ⟨hfirst, hsecond⟩ := Prod.mk.inj hpair
    rw [hfirst, hsecond]
    exact not_or.2 ⟨hne.symm, hx⟩
  · obtain ⟨hfirst, hsecond⟩ := Prod.mk.inj hpair
    rw [hfirst, hsecond]
    exact not_or.2 ⟨hx, hne.symm⟩

theorem isProtected_of_untouched {r : Record} (hp : Progress g old new {} (affected g old {}) h)
    (hne : old ≠ new) (hx : x ≠ old) (hr : r ∈ g.records) (hopen : r.isOpen = true)
    (hpair : r.pair = (new, x) ∨ r.pair = (x, new)) : IsProtected h new x := by
  have hother : ¬ Concerns old {} r := not_concerns_of_pair hne hx hpair
  exact ⟨r, (hp.mem_iff_affected r).2 (.inl ⟨hr, hother⟩), hopen, hpair⟩

theorem cases_of_isProtected (hg : g.IsSound) (hne : old ≠ new)
    (hp : Progress g old new {} (affected g old {}) h) (h' : IsProtected h new x) (hx : x ≠ new) :
    IsProtected g new x ∨ PassesTo g (old, x) (new, x) ∨ PassesTo g (x, old) (x, new) := by
  obtain ⟨r, hr, hopen, hpair⟩ := h'
  rcases (hp.mem_iff_affected r).1 hr with ⟨hr, -⟩ | ⟨q, hq, rfl⟩
  · exact .inl ⟨r, hr, hopen, hpair⟩
  · have hpasses := hq.passesTo hopen
    obtain ⟨y, hyo, hyn, hq' | hq'⟩ := hq.sides hg hne
    · have hsub : (q.substitute old new).pair = (new, y) := (Record.old_first hyo q hq').2.2
      rw [hq', hsub] at hpasses
      rw [hsub] at hpair
      rcases hpair with hpair | hpair
      · rw [(Prod.mk.inj hpair).2] at hpasses
        exact .inr (.inl hpasses)
      · exact absurd (Prod.mk.inj hpair).1.symm hx
    · have hsub : (q.substitute old new).pair = (y, new) := (Record.old_second hyo q hq').2.2
      rw [hq', hsub] at hpasses
      rw [hsub] at hpair
      rcases hpair with hpair | hpair
      · exact absurd (Prod.mk.inj hpair).1 hyn
      · rw [(Prod.mk.inj hpair).1] at hpasses
        exact .inr (.inr hpasses)

/-- After a merge without bounds, the new number and a third prisoner are protected exactly when they
were before, or when the protection of the old number and that prisoner passes on in its order. -/
theorem run_isProtected_iff (hs : s.isBroken = false) (hg : s.working.IsSound) (hold : old ≠ "")
    (hnew : new ≠ "") (hne : old ≠ new) :
    ∃ m h, (run old new {}).run s = .ok m { s with working := h } ∧
      ∀ x, x ≠ old → x ≠ new → (IsProtected h new x ↔
        IsProtected s.working new x ∨ PassesTo s.working (old, x) (new, x) ∨
          PassesTo s.working (x, old) (x, new)) := by
  obtain ⟨m, h, hrun, hp⟩ := exists_run_progress hs hg hold hnew hne {}
  refine ⟨m, h, hrun, ?_⟩
  intro x hxo hxn
  constructor
  · intro h'
    exact cases_of_isProtected hg hne hp h' hxn
  · rintro (⟨r, hr, hopen, hpair⟩ | hpasses | hpasses)
    · exact isProtected_of_untouched hp hne hxo hr hopen hpair
    · exact isProtected_of_survivor hp (.inl rfl)
        (hpasses.exists_survivor (Record.old_first hxo) hxn)
    · exact isProtected_of_survivor hp (.inr rfl)
        (hpasses.exists_survivor (Record.old_second hxo) hxn)

theorem run_isProtected_iff_couple : couple.IsSound ∧ ¬ IsProtected couple "B2" "C3" ∧
    ∃ m h, (run "A1" "B2" {}).run (Session.start couple) =
        .ok m { Session.start couple with working := h } ∧ IsProtected h "B2" "C3" := by
  have hne : "A1" ≠ "B2" := by decide
  obtain ⟨m, h, hrun, hiff⟩ := run_isProtected_iff (s := Session.start couple) rfl isSound_couple
    (by decide) (by decide) hne
  refine ⟨isSound_couple, ?_, m, h, hrun, ?_⟩
  · unfold IsProtected
    decide
  · exact (hiff "C3" (by decide) (by decide)).2 (.inr (.inl (survives_couple.passesTo rfl)))

end KeepApart.Merge
