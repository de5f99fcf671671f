import KeepApart.Proofs.Merge.Survivors

/-!
# Doubles after a merge

Doubles are two open records of the same two prisoners. A merge looks for the pair that a record is to
get in one order only, so a record may be renamed although an open one has its new pair in the opposite
order. Where there were no doubles before, this is the one way in which a merge makes them.
-/

namespace KeepApart

def Record.turned (r : Record) : Record :=
  { r with firstNumber := r.secondNumber, secondNumber := r.firstNumber }

namespace Merge

variable {g h : Register} {old new : String} {w : Window} {q q' r e : Record}
variable {p p' : String × String}

structure AreDoubles (g : Register) (r e : Record) : Prop where
  stored : r ∈ g.records ∧ e ∈ g.records
  differ : r.id ≠ e.id
  opened : r.isOpen = true ∧ e.isOpen = true
  same : r.pair = e.pair ∨ r.pair = e.pair.swap

theorem AreDoubles.symm (hd : AreDoubles g r e) : AreDoubles g e r := by
  refine ⟨hd.stored.symm, hd.differ.symm, hd.opened.symm, ?_⟩
  rcases hd.same with hsame | hsame
  · exact .inl hsame.symm
  · exact .inr (by rw [hsame, Prod.swap_swap])

/-- The protection of the pair `p` passes to `p'`, and an open record has `p'` in the opposite order. -/
def PassesAgainst (g : Register) (p p' : String × String) : Prop :=
  PassesTo g p p' ∧ ∃ e ∈ g.records, e.isOpen = true ∧ e.pair = p'.swap

/-! ## Two records that a merge leaves -/

theorem Survives.pair_eq_swap (hq : Survives g old new w q) (hq' : Survives g old new w q')
    (hne : old ≠ new) (h : (q.substitute old new).pair = (q'.substitute old new).pair.swap) :
    q.pair = q'.pair.swap := by
  have hnew := Record.not_involves_of_counterpart hq.concerned.involves hne hq.counterpart_ne
  have hnew' := Record.not_involves_of_counterpart hq'.concerned.involves hne hq'.counterpart_ne
  have hturned : (q.substitute old new).pair = (q'.turned.substitute old new).pair := h
  exact Record.pair_eq_of_substitute hnew hnew'.symm hturned

theorem not_doubles_of_survivors (ho : ∀ r e, ¬ AreDoubles g r e) (hne : old ≠ new)
    (hq : Survives g old new w q) (hq' : Survives g old new w q') :
    ¬ AreDoubles h (q.substitute old new) (q'.substitute old new) := by
  intro hd
  rcases hd.same with hsame | hsame
  · have hid : q.id = q'.id := hq.id_eq hq' hne hsame
    exact hd.differ hid
  · have hswap := hq.pair_eq_swap hq' hne hsame
    exact ho q q' ⟨⟨hq.stored, hq'.stored⟩, hd.differ, hd.opened, .inr hswap⟩

/-- The new pair of a survivor was free, so a double of it that the merge left alone has the opposite
pair. -/
theorem swap_of_survivor (hq : Survives g old new w q) (he : e ∈ g.records)
    (hd : AreDoubles h (q.substitute old new) e) : e.pair = (q.substitute old new).pair.swap := by
  rcases hd.same with hsame | hsame
  · exact absurd hsame.symm (hq.free e he)
  · rw [hsame, Prod.swap_swap]

/-- The open survivor `q` gets the pair of the open record `e`, but in the opposite order. -/
structure MeetsReversed (g : Register) (old new : String) (w : Window) (q e : Record) : Prop where
  survives : Survives g old new w q
  stored : e ∈ g.records
  opened : q.isOpen = true ∧ e.isOpen = true
  opposite : e.pair = (q.substitute old new).pair.swap

/-- Of doubles that a merge makes, one is a survivor and the other one was left alone. -/
theorem Progress.meetsReversed (hp : Progress g old new w (affected g old w) h)
    (ho : ∀ r e, ¬ AreDoubles g r e) (hne : old ≠ new) (hd : AreDoubles h r e) :
    r.pair = e.pair.swap ∧ ∃ q e, MeetsReversed g old new w q e := by
  obtain ⟨hr, he⟩ := hd.stored
  rcases (hp.mem_iff_affected r).1 hr with ⟨hr, -⟩ | ⟨q, hq, rfl⟩ <;>
    rcases (hp.mem_iff_affected e).1 he with ⟨he, -⟩ | ⟨q', hq', rfl⟩
  · exact absurd ⟨⟨hr, he⟩, hd.differ, hd.opened, hd.same⟩ (ho r e)
  · have hswap := swap_of_survivor hq' hr hd.symm
    exact ⟨hswap, q', r, hq', hr, hd.opened.symm, hswap⟩
  · have hswap := swap_of_survivor hq he hd
    refine ⟨by rw [hswap, Prod.swap_swap], q, e, hq, he, hd.opened, hswap⟩
  · exact absurd hd (not_doubles_of_survivors ho hne hq hq')

theorem MeetsReversed.passesAgainst (hm : MeetsReversed g old new {} q e) :
    PassesAgainst g q.pair (q.substitute old new).pair :=
  ⟨hm.survives.passesTo hm.opened.1, e, hm.stored, hm.opened.2, hm.opposite⟩

theorem MeetsReversed.exists_third (hm : MeetsReversed g old new {} q e) (hg : g.IsSound)
    (hne : old ≠ new) : ∃ x, x ≠ old ∧ x ≠ new ∧
      (PassesAgainst g (old, x) (new, x) ∨ PassesAgainst g (x, old) (x, new)) := by
  have hpasses := hm.passesAgainst
  obtain ⟨x, hxo, hxn, hpair | hpair⟩ := hm.survives.sides hg hne
  · have hnew : (q.substitute old new).pair = (new, x) := (Record.old_first hxo q hpair).2.2
    rw [hpair, hnew] at hpasses
    exact ⟨x, hxo, hxn, .inl hpasses⟩
  · have hnew : (q.substitute old new).pair = (x, new) := (Record.old_second hxo q hpair).2.2
    rw [hpair, hnew] at hpasses
    exact ⟨x, hxo, hxn, .inr hpasses⟩

/-- Where protection passes to a pair against the order of an open record, the merge makes doubles. -/
theorem PassesAgainst.exists_doubles {x : String} (hpasses : PassesAgainst g p p')
    (hp : Progress g old new {} (affected g old {}) h) (hne : old ≠ new) (hxo : x ≠ old)
    (hxn : x ≠ new) (hp' : p' = (new, x) ∨ p' = (x, new))
    (hsides : ∀ q : Record, q.pair = p →
      q.involves old = true ∧ q.counterpart old = x ∧ (q.substitute old new).pair = p') :
    ∃ r e, AreDoubles h r e := by
  obtain ⟨hto, e, he, heopen, hswap⟩ := hpasses
  obtain ⟨q, hq, hqopen, hpair⟩ := hto.exists_survivor hsides hxn
  have hdiffer : p' ≠ p'.swap := by
    rcases hp' with rfl | rfl
    · exact fun heq => hxn (Prod.mk.inj heq).2
    · exact fun heq => hxn (Prod.mk.inj heq).1
  have hother : ¬ Concerns old {} e := by
    refine not_concerns_of_pair hne hxo ?_
    rcases hp' with rfl | rfl
    · exact .inr hswap
    · exact .inl hswap
  have hr : q.substitute old new ∈ h.records := (hp.mem_iff_affected _).2 (.inr ⟨q, hq, rfl⟩)
  have he' : e ∈ h.records := (hp.mem_iff_affected e).2 (.inl ⟨he, hother⟩)
  have hopposite : (q.substitute old new).pair = e.pair.swap := by
    rw [hpair, hswap, Prod.swap_swap]
  refine ⟨q.substitute old new, e, ⟨hr, he'⟩, ?_, ⟨hqopen, heopen⟩, .inr hopposite⟩
  intro hid
  have hsame : p' = e.pair := hpair.symm.trans (congrArg Record.pair (hp.table.eq_of_id_eq hr he' hid))
  exact hdiffer (hsame.trans hswap)

/-! ## The whole merge -/

/-- On a sound register without doubles, a merge without bounds makes doubles exactly when, for a third
prisoner, protection passes to the new number against the order of an open record. Doubles that it
makes are in opposite orders. -/
theorem run_doubles_iff {s : Session} (hs : s.isBroken = false) (hg : s.working.IsSound)
    (ho : ∀ r e, ¬ AreDoubles s.working r e) (hold : old ≠ "") (hnew : new ≠ "")
    (hne : old ≠ new) :
    ∃ m h, (run old new {}).run s = .ok m { s with working := h } ∧
      ((∃ r e, AreDoubles h r e) ↔ ∃ x, x ≠ old ∧ x ≠ new ∧
        (PassesAgainst s.working (old, x) (new, x) ∨
          PassesAgainst s.working (x, old) (x, new))) ∧
      ∀ r e, AreDoubles h r e → r.pair = e.pair.swap := by
  obtain ⟨m, h, hrun, hp⟩ := exists_run_progress hs hg hold hnew hne {}
  refine ⟨m, h, hrun, ⟨?_, ?_⟩, fun r e hd => (hp.meetsReversed ho hne hd).1⟩
  · rintro ⟨r, e, hd⟩
    obtain ⟨-, q, e, hm⟩ := hp.meetsReversed ho hne hd
    exact hm.exists_third hg hne
  · rintro ⟨x, hxo, hxn, hpasses | hpasses⟩
    · exact hpasses.exists_doubles hp hne hxo hxn (.inl rfl) (Record.old_first hxo)
    · exact hpasses.exists_doubles hp hne hxo hxn (.inr rfl) (Record.old_second hxo)

/-- The old number before a third one and the third one before the new number. -/
theorem run_doubles_iff_facing :
    ∃ g h : Register, ∃ m, g.IsSound ∧ (∀ r e, ¬ AreDoubles g r e) ∧
      PassesAgainst g ("A1", "C3") ("B2", "C3") ∧
      (run "A1" "B2" {}).run (Session.start g) = .ok m { Session.start g with working := h } ∧
      ∃ r e, AreDoubles h r e := by
  let facing : Register := ⟨[plain 1 "A1" "C3", plain 2 "C3" "B2"]⟩
  have hsound : facing.IsSound := by
    refine ⟨⟨?_, ?_⟩, by decide, by decide⟩ <;>
      simp [facing, plain, Register.ids, Column.isStorable]
  have hapart : ∀ r ∈ facing.records, ∀ e ∈ facing.records,
      r.id ≠ e.id → ¬ (r.pair = e.pair ∨ r.pair = e.pair.swap) := by decide
  have halone : ∀ r e, ¬ AreDoubles facing r e := by
    intro r e hd
    exact hapart r hd.stored.1 e hd.stored.2 hd.differ hd.same
  have hpasses : PassesAgainst facing ("A1", "C3") ("B2", "C3") := by
    refine ⟨⟨plain 1 "A1" "C3", by decide, rfl, rfl, by decide, ?_⟩,
      plain 2 "C3" "B2", by decide, rfl, rfl⟩
    intro e he hpair
    simp only [facing, List.mem_cons, List.not_mem_nil, or_false] at he
    rcases he with rfl | rfl
    · exact Register.id_lt_irrefl _
    · exact absurd hpair (by decide)
  obtain ⟨m, h, hrun, hiff, -⟩ := run_doubles_iff (s := Session.start facing) rfl hsound halone
    (by decide) (by decide) (by decide : "A1" ≠ "B2")
  exact ⟨facing, h, m, hsound, halone, hpasses, hrun,
    hiff.2 ⟨"C3", by decide, by decide, .inl hpasses⟩⟩

end Merge

end KeepApart
