import KeepApart.Proofs.Merge.Survivors

/-!
# A merge done again

After a merge no record within its bounds mentions the old number: those that did are gone or have the
new number instead. So the same merge finds nothing when it is done again, and changes nothing.
-/

namespace KeepApart.Merge

open KeepApart.Action

variable {g h : Register} {old new : String} {w : Window} {s : Session}

theorem Progress.not_concerns (hp : Progress g old new w (affected g old w) h) (hne : old ≠ new) :
    ∀ r ∈ h.records, ¬ Concerns old w r := by
  intro r hr hconcerned
  rcases (hp.mem_iff_affected r).1 hr with ⟨-, hother⟩ | ⟨q, -, rfl⟩
  · exact hother hconcerned
  · have hpair : (q.substitute old new).pair ≠ (q.substitute old new).pair :=
      Record.pair_ne_substitute hconcerned.involves hne
    exact hpair rfl

theorem affected_eq_nil (h : ∀ r ∈ g.records, ¬ Concerns old w r) : affected g old w = [] := by
  refine List.eq_nil_iff_forall_not_mem.2 ?_
  intro r hr
  obtain ⟨hr, hconcerned⟩ := mem_affected.1 hr
  exact h r hr hconcerned

theorem run_of_affected_eq_nil (hs : s.isBroken = false) (hold : old ≠ "") (hnew : new ≠ "")
    (hne : old ≠ new) (h : affected s.working old w = []) :
    (run old new w).run s = .ok {} s := by
  unfold run
  rw [bind_eq_ok]
  refine ⟨(), s, check_eq_ok.2 ⟨checkNumbers_eq_ok.2 ⟨hold, hnew, hne⟩, rfl⟩, ?_⟩
  rw [bind_eq_ok]
  refine ⟨s.working, s, register_eq_ok.2 ⟨hs, rfl, rfl⟩, ?_⟩
  rw [h]
  rfl

/-- A merge of two different numbers that is done again, in the same session or in a later one, has
empty results and changes nothing. When it is without bounds, no record mentions the old number after
it. -/
theorem run_again (hs : s.isBroken = false) (hg : s.working.IsSound) (hold : old ≠ "")
    (hnew : new ≠ "") (hne : old ≠ new) (w : Window) :
    ∃ m h, (run old new w).run s = .ok m { s with working := h } ∧
      (∀ t : Session, t.isBroken = false → t.working = h → (run old new w).run t = .ok {} t) ∧
      (w = {} → ∀ r ∈ h.records, r.firstNumber ≠ old ∧ r.secondNumber ≠ old) := by
  obtain ⟨m, h, hrun, hp⟩ := exists_run_progress hs hg hold hnew hne w
  have hnone : ∀ r ∈ h.records, ¬ Concerns old w r := hp.not_concerns hne
  refine ⟨m, h, hrun, ?_, ?_⟩
  · rintro t ht rfl
    exact run_of_affected_eq_nil ht hold hnew hne (affected_eq_nil hnone)
  · rintro rfl r hr
    exact not_or.1 (mt concerns_unbounded.2 (hnone r hr))

theorem run_again_couple : couple.IsSound ∧
    ∃ m h, (run "A1" "B2" {}).run (Session.start couple) =
        .ok m { Session.start couple with working := h } ∧ m.isEmpty = false ∧
      (run "A1" "B2" {}).run (Session.start h) = .ok {} (Session.start h) := by
  obtain ⟨m, h, hrun, hagain, -⟩ := run_again (s := Session.start couple) rfl isSound_couple
    (by decide) (by decide) (by decide : "A1" ≠ "B2") {}
  have hresult : (run "A1" "B2" {}).run (Session.start couple) =
      .ok ⟨[plain 2 "B2" "C3"], [], [plain 1 "A1" "B2"]⟩
        { Session.start couple with working := ⟨[plain 2 "B2" "C3"]⟩ } := rfl
  rw [hresult] at hrun
  cases hrun
  exact ⟨isSound_couple, _, _, hresult, rfl, hagain _ rfl rfl⟩

end KeepApart.Merge
