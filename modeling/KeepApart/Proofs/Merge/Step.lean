import KeepApart.Merge
import KeepApart.Proofs.Action

/-!
# One step of a merge

A merge takes the concerned records one by one. Whatever the register holds by then, such a record has
one of three outcomes, and the step says which.
-/

namespace KeepApart

def Record.substitute (r : Record) (old new : String) : Record :=
  { r with
    firstNumber := if r.firstNumber = old then new else r.firstNumber
    secondNumber := if r.secondNumber = old then new else r.secondNumber }

namespace Record

variable {q r : Record} {old new : String}

theorem pair_substitute : (r.substitute old new).pair =
    (if r.firstNumber = old then new else r.firstNumber,
      if r.secondNumber = old then new else r.secondNumber) := rfl

/-- A record that would be renamed has the old number on one side only. -/
theorem renamed_eq_substitute (hr : r.involves old = true) (hself : r.firstNumber ≠ r.secondNumber) :
    r.renamed old new = r.substitute old new := by
  unfold renamed substitute
  by_cases hfirst : r.firstNumber = old
  · have hsecond : r.secondNumber ≠ old := fun h => hself (hfirst.trans h.symm)
    rw [if_pos hfirst, if_pos hfirst, if_neg hsecond]
  · have hsecond : r.secondNumber = old := (involves_iff.1 hr).resolve_left hfirst
    rw [if_neg hfirst, if_neg hfirst, if_pos hsecond]

theorem other?_eq_counterpart (hr : r.involves old = true) :
    r.other? old = some (r.counterpart old) := by
  unfold other? counterpart
  by_cases hfirst : r.firstNumber = old
  · rw [if_pos hfirst.symm, if_pos hfirst]
  · have hsecond : r.secondNumber = old := (involves_iff.1 hr).resolve_left hfirst
    rw [if_neg (Ne.symm hfirst), if_neg hfirst, if_pos hsecond.symm]

theorem not_involves_of_counterpart (hr : r.involves old = true) (hne : old ≠ new)
    (h : r.counterpart old ≠ new) : r.firstNumber ≠ new ∧ r.secondNumber ≠ new := by
  unfold counterpart at h
  by_cases hfirst : r.firstNumber = old
  · rw [if_pos hfirst] at h
    exact ⟨fun heq => hne (hfirst.symm.trans heq), h⟩
  · have hsecond : r.secondNumber = old := (involves_iff.1 hr).resolve_left hfirst
    rw [if_neg hfirst] at h
    exact ⟨h, fun heq => hne (hsecond.symm.trans heq)⟩

/-- Renaming leaves no side with the old number. -/
theorem pair_ne_substitute (hr : r.involves old = true) (hne : old ≠ new) :
    r.pair ≠ (q.substitute old new).pair := by
  have hside : ∀ x : String, (if x = old then new else x) ≠ old := by
    intro x
    by_cases hx : x = old
    · rw [if_pos hx]
      exact hne.symm
    · rw [if_neg hx]
      exact hx
  intro h
  obtain ⟨hfirst, hsecond⟩ := Prod.mk.inj (h.trans pair_substitute)
  rcases involves_iff.1 hr with hold | hold
  · exact hside _ (hfirst.symm.trans hold)
  · exact hside _ (hsecond.symm.trans hold)

theorem old_first {x : String} (hx : x ≠ old) (r : Record) (hr : r.pair = (old, x)) :
    r.involves old = true ∧ r.counterpart old = x ∧ (r.substitute old new).pair = (new, x) := by
  obtain ⟨hfirst, hsecond⟩ := Prod.mk.inj hr
  refine ⟨involves_iff.2 (.inl hfirst), ?_, ?_⟩
  · rw [counterpart, if_pos hfirst, hsecond]
  · rw [pair_substitute, if_pos hfirst, hsecond, if_neg hx]

theorem old_second {x : String} (hx : x ≠ old) (r : Record) (hr : r.pair = (x, old)) :
    r.involves old = true ∧ r.counterpart old = x ∧ (r.substitute old new).pair = (x, new) := by
  obtain ⟨hfirst, hsecond⟩ := Prod.mk.inj hr
  refine ⟨involves_iff.2 (.inr hsecond), ?_, ?_⟩
  · rw [counterpart, hfirst, if_neg hx]
  · rw [pair_substitute, hfirst, if_neg hx, if_pos hsecond]

/-- Renaming tells pairs apart that the new number is not in. -/
theorem pair_eq_of_substitute (hq : q.firstNumber ≠ new ∧ q.secondNumber ≠ new)
    (hr : r.firstNumber ≠ new ∧ r.secondNumber ≠ new)
    (h : (q.substitute old new).pair = (r.substitute old new).pair) : q.pair = r.pair := by
  have hside : ∀ x y : String, x ≠ new → y ≠ new →
      (if x = old then new else x) = (if y = old then new else y) → x = y := by
    intro x y hx hy hxy
    by_cases hxo : x = old <;> by_cases hyo : y = old
    · rw [hxo, hyo]
    · rw [if_pos hxo, if_neg hyo] at hxy
      exact absurd hxy.symm hy
    · rw [if_neg hxo, if_pos hyo] at hxy
      exact absurd hxy hx
    · rwa [if_neg hxo, if_neg hyo] at hxy
  rw [pair_substitute, pair_substitute] at h
  obtain ⟨hfirst, hsecond⟩ := Prod.mk.inj h
  exact Prod.ext (hside _ _ hq.1 hr.1 hfirst) (hside _ _ hq.2 hr.2 hsecond)

end Record

namespace Merge

open KeepApart.Action

variable {old new : String} {s : Session} {q : Record} {m : MergeResults}

inductive Outcome (old new : String) (h : Register) (q : Record) (m : MergeResults) :
    MergeResults → Register → Prop where
  | collapsed {n : Int} (id : q.id = some n) (itself : q.counterpart old = new) :
      Outcome old new h q m (m.addCollapsed q) (h.remove n)
  | superseded {n : Int} {duplicate : Record} (id : q.id = some n) (other : q.counterpart old ≠ new)
      (found : h.withPair? (q.substitute old new).firstNumber (q.substitute old new).secondNumber =
        some duplicate) :
      Outcome old new h q m (m.addSuperseding duplicate) (h.remove n)
  | renamed (other : q.counterpart old ≠ new)
      (free : ∀ e ∈ h.records, e.pair ≠ (q.substitute old new).pair) :
      Outcome old new h q m (m.addRenamed (q.substitute old new)) (h.replace (q.substitute old new))

/-- A step succeeds on a record that is stored, whatever else is. -/
theorem exists_outcome (hs : s.isBroken = false) (hh : s.working.IsTable)
    (hq : q ∈ s.working.records) (hclosure : q.closureConsistent = true)
    (hself : q.firstNumber ≠ q.secondNumber) (hold : q.involves old = true) (hne : old ≠ new) :
    ∃ m' h', (step old new m q).run s = .ok m' { s with working := h' } ∧
      Outcome old new s.working q m m' h' := by
  obtain ⟨n, hid, hn⟩ := hh.exists_id hq
  have hdelete : (Action.delete q.id).run s = .ok () { s with working := s.working.remove n } :=
    delete_eq_ok.2 ⟨hs, n, hid, hn, ⟨q, hq, hid⟩, rfl⟩
  unfold step
  by_cases hother : q.counterpart old = new
  · refine ⟨_, _, ?_, .collapsed hid hother⟩
    rw [if_pos hother, bind_eq_ok]
    exact ⟨(), _, hdelete, rfl⟩
  · rw [if_neg hother, Record.renamed_eq_substitute hold hself]
    dsimp only
    cases hdup : s.working.withPair? (q.substitute old new).firstNumber
        (q.substitute old new).secondNumber with
    | some duplicate =>
        obtain ⟨hstored, hpair⟩ := Register.withPair?_eq_some hdup
        have hdiffer : (duplicate.id != q.id) = true := by
          rw [bne_iff_ne]
          intro heq
          rw [hh.eq_of_id_eq hstored hq heq] at hpair
          exact Record.pair_ne_substitute hold hne hpair
        refine ⟨_, _, ?_, .superseded hid hother hdup⟩
        rw [bind_eq_ok]
        refine ⟨_, s, register_eq_ok.2 ⟨hs, rfl, rfl⟩, ?_⟩
        rw [hdup]
        dsimp only
        rw [if_pos hdiffer, bind_eq_ok]
        exact ⟨(), _, hdelete, rfl⟩
    | none =>
        refine ⟨_, _, ?_, .renamed hother (Register.withPair?_eq_none_iff.1 hdup)⟩
        rw [bind_eq_ok]
        refine ⟨_, s, register_eq_ok.2 ⟨hs, rfl, rfl⟩, ?_⟩
        rw [hdup]
        dsimp only
        rw [bind_eq_ok]
        exact ⟨_, _, run_save_over (r := q.substitute old new) hs hclosure hid hn ⟨q, hq, hid⟩, rfl⟩

variable {P : Session → Prop} [IsInvariant P]

instance (r : Record) : Keeps P (step old new m r) := by
  have hmatch (found : Option Record) (f : Record → Action MergeResults)
      (act : Action MergeResults) [∀ d, Keeps P (f d)] [Keeps P act] :
      Keeps P (match found with | some d => f d | none => act) := by
    cases found <;> infer_instance
  unfold step
  dsimp only
  infer_instance

instance (w : Window) : Keeps P (run old new w) := by
  unfold run
  infer_instance

end Merge

end KeepApart
