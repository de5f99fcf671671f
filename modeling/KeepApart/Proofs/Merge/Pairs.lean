import Mathlib.Data.Set.Image
import KeepApart.Proofs.Merge.Survivors

/-!
# Pairs after merges

A merge without bounds maps the pairs of a register: wherever the old number stood there is the new
one, and the pairs of a number with itself are gone. Two merges of four different numbers may therefore
be done in either order. They need not leave the same records, but they leave the same pairs.
-/

namespace KeepApart

def Register.pairs (g : Register) : Set (String × String) := {p | ∃ r ∈ g.records, r.pair = p}

namespace Merge

open KeepApart.Action

/-- The number under which a prisoner is known after a merge. -/
def successor (old new number : String) : String := if number = old then new else number

variable {g h : Register} {old new : String}

theorem successor_of_ne {number : String} (hne : number ≠ old) :
    successor old new number = number := if_neg hne

theorem successor_comm {old' new' : String} (hold : old ≠ old') (hnew : new ≠ old')
    (hnew' : new' ≠ old) (number : String) :
    successor old' new' (successor old new number) =
      successor old new (successor old' new' number) := by
  by_cases h : number = old
  · have h' : number ≠ old' := fun heq => hold (h.symm.trans heq)
    rw [successor_of_ne h', successor, successor, if_pos h, if_neg hnew]
  · rw [successor_of_ne h]
    by_cases h' : number = old'
    · rw [successor, if_pos h', successor_of_ne hnew']
    · rw [successor_of_ne h', successor_of_ne h]

/-- Two numbers that become the same one stay the same one, so pairs of a number with itself may be left
out before the numbers are mapped, or only afterwards. -/
theorem image_diff_diagonal {α β : Type} (f : α → β) (S : Set (α × α)) :
    Prod.map f f '' (S \ Set.diagonal α) \ Set.diagonal β =
      Prod.map f f '' S \ Set.diagonal β := by
  ext p
  constructor
  · rintro ⟨⟨q, ⟨hq, -⟩, rfl⟩, hp⟩
    exact ⟨⟨q, hq, rfl⟩, hp⟩
  · rintro ⟨⟨q, hq, rfl⟩, hp⟩
    have hdiffer : q ∉ Set.diagonal α := by
      intro heq
      exact hp (congrArg f heq)
    exact ⟨⟨q, ⟨hq, hdiffer⟩, rfl⟩, hp⟩

theorem pair_of_not_concerns {r : Record} (hr : ¬ Concerns old {} r) :
    (r.substitute old new).pair = r.pair := by
  rw [concerns_unbounded, not_or] at hr
  rw [Record.pair_substitute, if_neg hr.1, if_neg hr.2]
  rfl

/-- A record that is collapsed would have paired the new number with itself. -/
theorem substitute_mem_diagonal {q : Record} (hq : q.involves old = true) (hne : old ≠ new)
    (hother : q.counterpart old = new) : (q.substitute old new).pair ∈ Set.diagonal String := by
  have hside : successor old new q.firstNumber = successor old new q.secondNumber := by
    unfold Record.counterpart at hother
    by_cases hfirst : q.firstNumber = old
    · rw [if_pos hfirst] at hother
      rw [hother, successor, if_pos hfirst, successor_of_ne hne.symm]
    · have hsecond : q.secondNumber = old := (Record.involves_iff.1 hq).resolve_left hfirst
      rw [if_neg hfirst] at hother
      rw [hother, hsecond, successor_of_ne hne.symm, successor, if_pos rfl]
  exact hside

theorem Progress.pairs_eq (hg : g.IsSound) (hne : old ≠ new)
    (hp : Progress g old new {} (affected g old {}) h) :
    h.pairs = Prod.map (successor old new) (successor old new) '' g.pairs \
      Set.diagonal String := by
  ext p
  constructor
  · rintro ⟨r, hr, rfl⟩
    have hdiffer : r.pair ∉ Set.diagonal String := (hp.isSound hg hne).pairs r hr
    rcases (hp.mem_iff_affected r).1 hr with ⟨hr, hother⟩ | ⟨q, hq, rfl⟩
    · have hpair : (r.substitute old new).pair = r.pair := pair_of_not_concerns hother
      exact ⟨⟨r.pair, ⟨r, hr, rfl⟩, hpair⟩, hdiffer⟩
    · exact ⟨⟨q.pair, ⟨q, hq.stored, rfl⟩, rfl⟩, hdiffer⟩
  · rintro ⟨⟨_, ⟨q, hq, rfl⟩, rfl⟩, hdiffer⟩
    by_cases hconcerned : Concerns old {} q
    · have hother : q.counterpart old ≠ new := fun heq =>
        hdiffer (substitute_mem_diagonal hconcerned.involves hne heq)
      exact hp.covered q (mem_affected.2 ⟨hq, hconcerned⟩) hother
    · have hpair : (q.substitute old new).pair = q.pair := pair_of_not_concerns hconcerned
      exact ⟨q, (hp.mem_iff_affected q).2 (.inl ⟨hq, hconcerned⟩), hpair.symm⟩

/-! ## Two merges -/

def runBoth (old new old' new' : String) : Action MergeResults := do
  let _ ← run old new {}
  run old' new' {}

variable {old' new' : String} {s : Session}

theorem exists_runBoth_pairs (hs : s.isBroken = false) (hg : s.working.IsSound)
    (hempty : ∀ n ∈ [old, new, old', new'], n ≠ "") (hne : old ≠ new) (hne' : old' ≠ new') :
    ∃ m h, (runBoth old new old' new').run s = .ok m { s with working := h } ∧
      h.pairs = Prod.map (successor old' new' ∘ successor old new)
          (successor old' new' ∘ successor old new) '' s.working.pairs \ Set.diagonal String := by
  simp only [List.forall_mem_cons] at hempty
  obtain ⟨hold, hnew, hold', hnew', -⟩ := hempty
  obtain ⟨m, h, hrun, hp⟩ := exists_run_progress hs hg hold hnew hne {}
  have hh : h.IsSound := hp.isSound hg hne
  obtain ⟨m', h', hrun', hp'⟩ :=
    exists_run_progress (s := { s with working := h }) hs hh hold' hnew' hne' {}
  refine ⟨m', h', ?_, ?_⟩
  · rw [runBoth, bind_eq_ok]
    exact ⟨m, _, hrun, hrun'⟩
  · have hfirst : h.pairs = _ := hp.pairs_eq hg hne
    have hsecond : h'.pairs = _ := hp'.pairs_eq hh hne'
    rw [hsecond, hfirst, image_diff_diagonal, ← Set.image_comp, Prod.map_comp_map]

/-- Two merges of four different numbers succeed on a sound register in either order and leave the same
pairs: those of the register with both numbers replaced, but for pairs of a number with itself. -/
theorem merges_commute_on_pairs (hs : s.isBroken = false) (hg : s.working.IsSound)
    (hempty : ∀ n ∈ [old, new, old', new'], n ≠ "") (hdiffer : [old, new, old', new'].Nodup) :
    ∃ m h m' h', (runBoth old new old' new').run s = .ok m { s with working := h } ∧
      (runBoth old' new' old new).run s = .ok m' { s with working := h' } ∧
      h.pairs = h'.pairs ∧
      h.pairs = Prod.map (successor old' new' ∘ successor old new)
          (successor old' new' ∘ successor old new) '' s.working.pairs \ Set.diagonal String := by
  have hempty' : ∀ n ∈ [old', new', old, new], n ≠ "" := by
    intro n hn
    apply hempty
    simp only [List.mem_cons, List.not_mem_nil, or_false] at hn ⊢
    tauto
  simp only [List.nodup_cons, List.mem_cons, List.not_mem_nil, or_false, not_or] at hdiffer
  obtain ⟨⟨hne, hold, hcross⟩, ⟨hnew, -⟩, hne', -⟩ := hdiffer
  obtain ⟨m, h, hrun, hpairs⟩ := exists_runBoth_pairs hs hg hempty hne hne'
  obtain ⟨m', h', hrun', hpairs'⟩ := exists_runBoth_pairs hs hg hempty' hne' hne
  have hcomm : successor old' new' ∘ successor old new =
      successor old new ∘ successor old' new' := by
    funext number
    exact successor_comm hold hnew (Ne.symm hcross) number
  refine ⟨m, h, m', h', hrun, hrun', ?_, hpairs⟩
  rw [hpairs, hpairs', hcomm]

/-- A record of both old numbers, and one of each of them with the other new number: which of the last
two survives hangs on the order of the merges. -/
theorem merges_commute_on_pairs_square :
    ∃ g h h' : Register, g.IsSound ∧ h.pairs = h'.pairs ∧ h.ids = [some 3] ∧ h'.ids = [some 2] ∧
      ∃ m m', (runBoth "A1" "B2" "C3" "D4").run (Session.start g) =
          .ok m { Session.start g with working := h } ∧
        (runBoth "C3" "D4" "A1" "B2").run (Session.start g) =
          .ok m' { Session.start g with working := h' } := by
  let square : Register := ⟨[plain 1 "A1" "C3", plain 2 "B2" "C3", plain 3 "A1" "D4"]⟩
  have hsquare : square.IsSound := by
    refine ⟨⟨?_, ?_⟩, by decide, by decide⟩ <;>
      simp [square, plain, Register.ids, Column.isStorable]
  obtain ⟨m, h, m', h', hrun, hrun', hpairs, -⟩ := merges_commute_on_pairs
    (s := Session.start square) rfl hsquare (by decide) (by decide : ["A1", "B2", "C3", "D4"].Nodup)
  have hleft : (runBoth "A1" "B2" "C3" "D4").run (Session.start square) =
      .ok ⟨[], [plain 3 "B2" "D4"], []⟩
        { Session.start square with working := ⟨[plain 3 "B2" "D4"]⟩ } := rfl
  have hleft' : (runBoth "C3" "D4" "A1" "B2").run (Session.start square) =
      .ok ⟨[], [plain 2 "B2" "D4"], []⟩
        { Session.start square with working := ⟨[plain 2 "B2" "D4"]⟩ } := rfl
  rw [hleft] at hrun
  rw [hleft'] at hrun'
  cases hrun
  cases hrun'
  exact ⟨square, _, _, hsquare, hpairs, rfl, rfl, _, _, hleft, hleft'⟩

end Merge

end KeepApart
