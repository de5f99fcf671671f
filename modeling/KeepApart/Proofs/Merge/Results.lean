import KeepApart.Proofs.Merge.Survivors

/-!
# What a merge reports

The results of a merge account for every record that it touches. While the records are taken one by
one, the lists are right for those taken so far: a deleted record is listed as collapsed, or the row
that it left its pair to is listed once, and a renamed one is listed as it is stored.
-/

namespace KeepApart.Merge

variable {g h h' : Register} {old new : String} {w : Window} {done rest : List Record}
variable {q r d : Record} {m m' : MergeResults}

structure IsFirst (h : Register) (d : Record) : Prop where
  stored : d ∈ h.records
  first : ∀ e ∈ h.records, e.pair = d.pair → ¬ e.id < d.id

structure IsLost (g : Register) (old new : String) (w : Window) (q : Record) : Prop where
  other : q.counterpart old ≠ new
  lost : ¬ Survives g old new w q

theorem isFirst_of_withPair? {a b : String} (hh : h.IsTable) (hd : h.withPair? a b = some d) :
    IsFirst h d := by
  obtain ⟨hstored, hpair⟩ := Register.withPair?_eq_some hd
  refine ⟨hstored, ?_⟩
  intro e he hsame hlt
  obtain ⟨-, before, after, hsplit, hbefore⟩ := List.find?_eq_some_iff_append.1 hd
  have hids : h.records.Pairwise fun a b => a.id < b.id := List.pairwise_map.1 hh.ascending
  rw [hsplit] at he hids
  rw [List.pairwise_append, List.pairwise_cons] at hids
  rcases List.mem_append.1 he with he | he
  · have hother := hbefore e he
    rw [Record.hasPair_iff.2 (hsame.trans hpair)] at hother
    cases hother
  · rcases List.mem_cons.1 he with rfl | he
    · exact Register.id_lt_irrefl _ hlt
    · exact Register.id_lt_asymm hlt (hids.2.1.1 e he)

theorem IsFirst.remove {n : Int} (hd : IsFirst h d) (hid : d.id ≠ some n) :
    IsFirst (h.remove n) d := by
  refine ⟨Register.mem_remove.2 ⟨hd.stored, hid⟩, ?_⟩
  intro e he
  exact hd.first e (Register.mem_remove.1 he).1

theorem IsFirst.update (hd : IsFirst h d) (hh : h.IsUpdate r h') (hid : d.id ≠ r.id)
    (hpair : r.pair ≠ d.pair) : IsFirst h' d := by
  refine ⟨(hh.mem_iff d).2 (.inr ⟨hd.stored, hid⟩), ?_⟩
  intro e he hsame
  rcases (hh.mem_iff e).1 he with rfl | ⟨he, -⟩
  · exact absurd hsame hpair
  · exact hd.first e he hsame

theorem IsFirst.eq (hh : h.IsTable) (hd : IsFirst h d) (hr : IsFirst h r) (hpair : d.pair = r.pair) :
    d = r :=
  hh.eq_of_id_eq hd.stored hr.stored
    (Register.id_eq_of_not_lt (hr.first d hd.stored hpair) (hd.first r hr.stored hpair.symm))

/-! ## While records are taken -/

/-- What the results say once the records of `done` were taken. -/
structure Tally (g : Register) (old new : String) (w : Window) (done : List Record)
    (m : MergeResults) (h : Register) : Prop where
  collapsed : m.collapsed = done.filter fun q => q.counterpart old = new
  mem_renamed : ∀ r, r ∈ m.renamed ↔ ∃ q ∈ done, Survives g old new w q ∧ r = q.substitute old new
  ascending : m.renamed.Pairwise fun a b => a.id < b.id
  nodup : (m.superseding.map (·.id)).Nodup
  stands : ∀ d ∈ m.superseding, IsFirst h d ∧ d.involves old = false
  covered : ∀ q ∈ done, IsLost g old new w q →
    ∃ d ∈ m.superseding, d.pair = (q.substitute old new).pair
  grounded : ∀ d ∈ m.superseding, ∃ q ∈ done, IsLost g old new w q ∧
    d.pair = (q.substitute old new).pair

theorem tally_nil : Tally g old new w [] {} g := by
  refine ⟨rfl, ?_, .nil, .nil, ?_, ?_, ?_⟩ <;> simp

theorem Tally.covered_snoc (ht : Tally g old new w done m h) (hq : ¬ IsLost g old new w q) :
    ∀ q' ∈ done ++ [q], IsLost g old new w q' →
      ∃ d ∈ m.superseding, d.pair = (q'.substitute old new).pair := by
  intro q' hq' hlost
  rcases List.mem_append.1 hq' with hq' | hq'
  · exact ht.covered q' hq' hlost
  · obtain rfl := List.mem_singleton.1 hq'
    exact absurd hlost hq

theorem Tally.grounded_snoc (ht : Tally g old new w done m h) (hd : d ∈ m.superseding) :
    ∃ q' ∈ done ++ [q], IsLost g old new w q' ∧ d.pair = (q'.substitute old new).pair := by
  obtain ⟨q', hq', hlost⟩ := ht.grounded d hd
  exact ⟨q', List.mem_append_left _ hq', hlost⟩

theorem mem_or_eq_of_mem_addOnce (hd : d ∈ r.addOnce done) : d ∈ done ∨ d = r := by
  unfold Record.addOnce at hd
  split at hd
  · exact .inl hd
  · simpa using hd

theorem mem_addOnce (hr : ∀ s ∈ done, s.id = r.id → s = r) :
    d ∈ r.addOnce done ↔ d ∈ done ∨ d = r := by
  refine ⟨mem_or_eq_of_mem_addOnce, ?_⟩
  unfold Record.addOnce
  by_cases hany : (done.any fun s => s.id == r.id) = true
  · rw [if_pos hany]
    obtain ⟨s, hs, hid⟩ := List.any_eq_true.1 hany
    obtain rfl := hr s hs (by simpa using hid)
    rintro (hd | rfl)
    · exact hd
    · exact hs
  · rw [if_neg hany, List.mem_append, List.mem_singleton]
    exact id

theorem nodup_addOnce (hdone : (done.map (·.id)).Nodup) : ((r.addOnce done).map (·.id)).Nodup := by
  unfold Record.addOnce
  by_cases hany : (done.any fun s => s.id == r.id) = true
  · rw [if_pos hany]
    exact hdone
  · rw [if_neg hany, List.map_append]
    refine List.nodup_append'.2 ⟨hdone, List.nodup_singleton _, ?_⟩
    intro i hi hir
    obtain ⟨s, hs, rfl⟩ := List.mem_map.1 hi
    obtain hid := List.mem_singleton.1 hir
    exact hany (List.any_eq_true.2 ⟨s, hs, by simpa using hid⟩)

section Next

variable (hsplit : affected g old w = done ++ q :: rest) (hp : Progress g old new w done h)
include hsplit hp

theorem id_ne_next (hg : g.IsTable) (hd : d ∈ h.records) (hnot : d.involves old = false) :
    d.id ≠ q.id := by
  intro heq
  rw [hp.table.eq_of_id_eq hd (hp.mem_next hsplit hg) heq, (mem_of_split hsplit).2.involves] at hnot
  cases hnot

variable (ht : Tally g old new w done m h)
include ht

theorem Tally.stands_remove {n : Int} (hg : g.IsTable) (hid : q.id = some n)
    (hd : d ∈ m.superseding) : IsFirst (h.remove n) d ∧ d.involves old = false := by
  obtain ⟨hfirst, hnot⟩ := ht.stands d hd
  have hne : d.id ≠ q.id := id_ne_next hsplit hp hg hfirst.stored hnot
  rw [hid] at hne
  exact ⟨hfirst.remove hne, hnot⟩

theorem Tally.collapse {n : Int} (hg : g.IsTable) (hid : q.id = some n)
    (itself : q.counterpart old = new) :
    Tally g old new w (done ++ [q]) (m.addCollapsed q) (h.remove n) where
  collapsed := by
    rw [MergeResults.addCollapsed, ht.collapsed, List.filter_append, List.filter_singleton]
    simp [itself]
  mem_renamed := by
    intro r
    have hlost : ¬ Survives g old new w q := fun hq => hq.counterpart_ne itself
    rw [MergeResults.addCollapsed, ht.mem_renamed]
    simp [or_and_right, exists_or, hlost]
  ascending := ht.ascending
  nodup := ht.nodup
  stands := fun d hd => ht.stands_remove hsplit hp hg hid hd
  covered := ht.covered_snoc fun hlost => hlost.other itself
  grounded := fun _ hd => ht.grounded_snoc hd

variable (hne : old ≠ new)
include hne

theorem Tally.supersede {n : Int} (hg : g.IsTable) (hid : q.id = some n)
    (other : q.counterpart old ≠ new)
    (found : h.withPair? (q.substitute old new).firstNumber (q.substitute old new).secondNumber =
      some r) : Tally g old new w (done ++ [q]) (m.addSuperseding r) (h.remove n) := by
  obtain ⟨hstored, hpair⟩ := Register.withPair?_eq_some found
  have hlost : IsLost g old new w q := ⟨other, hp.not_survives hsplit hne hg hstored hpair⟩
  have hnot : r.involves old = false := by
    rw [← Bool.not_eq_true]
    exact fun hold => Record.pair_ne_substitute hold hne hpair
  have hmem (d : Record) :
      d ∈ (m.addSuperseding r).superseding ↔ d ∈ m.superseding ∨ d = r := by
    refine mem_addOnce ?_
    intro s hs
    exact hp.table.eq_of_id_eq (ht.stands s hs).1.stored hstored
  have hrenamed : (m.addSuperseding r).renamed = m.renamed := rfl
  have hcollapsed : (m.addSuperseding r).collapsed = m.collapsed := rfl
  refine ⟨?_, ?_, ?_, nodup_addOnce ht.nodup, ?_, ?_, ?_⟩
  · rw [hcollapsed, ht.collapsed, List.filter_append, List.filter_singleton]
    simp [other]
  · intro s
    rw [hrenamed, ht.mem_renamed]
    simp [or_and_right, exists_or, hlost.lost]
  · rw [hrenamed]
    exact ht.ascending
  · -- The row found is the first of its pair, and stays so when the next record goes.
    intro d hd
    rcases (hmem d).1 hd with hd | rfl
    · exact ht.stands_remove hsplit hp hg hid hd
    · have hrid : d.id ≠ q.id := id_ne_next hsplit hp hg hstored hnot
      rw [hid] at hrid
      exact ⟨(isFirst_of_withPair? hp.table found).remove hrid, hnot⟩
  · intro q' hq' hlost'
    rcases List.mem_append.1 hq' with hq' | hq'
    · obtain ⟨d, hd, hpair'⟩ := ht.covered q' hq' hlost'
      exact ⟨d, (hmem d).2 (.inl hd), hpair'⟩
    · obtain rfl := List.mem_singleton.1 hq'
      exact ⟨r, (hmem r).2 (.inr rfl), hpair⟩
  · intro d hd
    rcases (hmem d).1 hd with hd | rfl
    · exact ht.grounded_snoc hd
    · exact ⟨q, List.mem_append_right _ (List.mem_singleton_self q), hlost, hpair⟩

theorem Tally.rename (hg : g.IsTable) (other : q.counterpart old ≠ new)
    (free : ∀ e ∈ h.records, e.pair ≠ (q.substitute old new).pair) :
    Tally g old new w (done ++ [q]) (m.addRenamed (q.substitute old new))
      (h.replace (q.substitute old new)) := by
  have hq := hp.mem_next hsplit hg
  have hsurvives := hp.survives_of_free hsplit hne hg other free
  have hupdate := hp.table.isUpdate_replace (r := q.substitute old new) hq rfl
  refine ⟨?_, ?_, ?_, ht.nodup, ?_, ht.covered_snoc fun hlost => hlost.lost hsurvives,
    fun _ hd => ht.grounded_snoc hd⟩
  · rw [MergeResults.addRenamed, ht.collapsed, List.filter_append, List.filter_singleton]
    simp [other]
  · intro r
    rw [MergeResults.addRenamed, List.mem_append, ht.mem_renamed]
    simp [or_and_right, exists_or, hsurvives]
  · rw [MergeResults.addRenamed, List.pairwise_append]
    refine ⟨ht.ascending, List.pairwise_singleton _ _, ?_⟩
    intro r hr s hs
    obtain ⟨q', hq', -, rfl⟩ := (ht.mem_renamed r).1 hr
    obtain rfl := List.mem_singleton.1 hs
    -- Renaming keeps ids, and the records are taken in the order of their ids.
    have hlt : q'.id < q.id := id_lt_of_done hsplit hg hq'
    exact hlt
  · intro d hd
    obtain ⟨hfirst, hnot⟩ := ht.stands d hd
    have hid : d.id ≠ q.id := id_ne_next hsplit hp hg hfirst.stored hnot
    exact ⟨hfirst.update hupdate hid (free d hfirst.stored).symm, hnot⟩

theorem Tally.step (hg : g.IsTable) (ho : Outcome old new h q m m' h') :
    Tally g old new w (done ++ [q]) m' h' := by
  cases ho with
  | collapsed id itself => exact ht.collapse hsplit hp hg id itself
  | superseded id other found => exact ht.supersede hsplit hp hne hg id other found
  | renamed other free => exact ht.rename hsplit hp hne hg other free

end Next

theorem Passed.tally (hg : g.IsTable) (hne : old ≠ new) (hp : Passed old new g done m h)
    (hsplit : affected g old w = done ++ rest) : Tally g old new w done m h := by
  -- The records that are left grow as the ones taken shrink, so the split is generalized over them.
  induction hp generalizing rest with
  | nil => exact tally_nil
  | snoc before next ih =>
      rw [List.append_assoc] at hsplit
      exact (ih hsplit).step hsplit (before.progress hg hne hsplit) hne hg next

/-! ## The whole report -/

def IsDeleted (h : Register) (q : Record) : Prop := ∀ r ∈ h.records, r.id ≠ q.id

theorem counterpart_eq_iff (hq : q.involves old = true) (hne : old ≠ new) :
    q.counterpart old = new ↔ q.pair = (old, new) ∨ q.pair = (new, old) := by
  unfold Record.counterpart Record.pair
  by_cases hfirst : q.firstNumber = old
  · rw [if_pos hfirst, hfirst]
    simp [hne]
  · have hsecond : q.secondNumber = old := (Record.involves_iff.1 hq).resolve_left hfirst
    rw [if_neg hfirst, hsecond]
    simp [hfirst]

section Whole

variable (hp : Progress g old new w (affected g old w) h) (hg : g.IsTable)
include hp hg

/-- What a concerned record has become, if it is still there. -/
theorem Progress.eq_substitute (hq : q ∈ g.records) (hconcerned : Concerns old w q)
    (hr : r ∈ h.records) (hid : r.id = q.id) :
    Survives g old new w q ∧ r = q.substitute old new := by
  rcases (hp.mem_iff_affected r).1 hr with ⟨hr, hother⟩ | ⟨q', hq', rfl⟩
  · rw [hg.eq_of_id_eq hr hq hid] at hother
    exact absurd hconcerned hother
  · obtain rfl : q' = q := hg.eq_of_id_eq hq'.stored hq hid
    exact ⟨hq', rfl⟩

theorem Progress.isDeleted_iff (hq : q ∈ g.records) (hconcerned : Concerns old w q) :
    IsDeleted h q ↔ ¬ Survives g old new w q := by
  constructor
  · intro hdeleted hsurvives
    exact hdeleted _ ((hp.mem_iff_affected _).2 (.inr ⟨q, hsurvives, rfl⟩)) rfl
  · intro hlost r hr hid
    exact hlost (hp.eq_substitute hg hq hconcerned hr hid).1

end Whole

/-- The results of a merge that made `h` of `g` account for every record that it concerns. -/
structure Accounts (g : Register) (old new : String) (w : Window) (m : MergeResults)
    (h : Register) : Prop where
  collapsed_ascending : m.collapsed.Pairwise fun a b => a.id < b.id
  mem_collapsed : ∀ q, q ∈ m.collapsed ↔
    q ∈ g.records ∧ Concerns old w q ∧ (q.pair = (old, new) ∨ q.pair = (new, old))
  collapsed_deleted : ∀ q ∈ m.collapsed, IsDeleted h q
  renamed_ascending : m.renamed.Pairwise fun a b => a.id < b.id
  mem_renamed : ∀ r, r ∈ m.renamed ↔
    r ∈ h.records ∧ ∃ q ∈ g.records, Concerns old w q ∧ r.id = q.id
  rewritten : ∀ r ∈ m.renamed, ∃ q ∈ g.records, r = q.substitute old new
  superseding_nodup : (m.superseding.map (·.id)).Nodup
  superseding_first : ∀ d ∈ m.superseding, IsFirst h d
  covered : ∀ q ∈ g.records, Concerns old w q → IsDeleted h q → q ∉ m.collapsed →
    ∃! d, d ∈ m.superseding ∧ d.pair = (q.substitute old new).pair
  grounded : ∀ d ∈ m.superseding, ∃ q ∈ g.records, Concerns old w q ∧ IsDeleted h q ∧
    q ∉ m.collapsed ∧ d.pair = (q.substitute old new).pair
  renamed_kept : ∀ q, IsDeleted h q → ∀ r ∈ m.renamed, r.id ≠ q.id

theorem Tally.accounts (hg : g.IsTable) (hne : old ≠ new)
    (hp : Progress g old new w (affected g old w) h)
    (ht : Tally g old new w (affected g old w) m h) : Accounts g old new w m h := by
  have hcollapsed (q : Record) :
      q ∈ m.collapsed ↔ q ∈ g.records ∧ Concerns old w q ∧ q.counterpart old = new := by
    rw [ht.collapsed, List.mem_filter, mem_affected, and_assoc, decide_eq_true_iff]
  have hrenamed {r : Record} (hr : r ∈ m.renamed) :
      r ∈ h.records ∧ ∃ q ∈ g.records, Concerns old w q ∧ r = q.substitute old new := by
    obtain ⟨q, -, hsurvives, rfl⟩ := (ht.mem_renamed r).1 hr
    exact ⟨(hp.mem_iff_affected _).2 (.inr ⟨q, hsurvives, rfl⟩), q, hsurvives.stored,
      hsurvives.concerned, rfl⟩
  have hlost {q : Record} (hq : q ∈ g.records) (hconcerned : Concerns old w q) :
      IsLost g old new w q ↔ IsDeleted h q ∧ q ∉ m.collapsed := by
    rw [hp.isDeleted_iff hg hq hconcerned, hcollapsed]
    constructor
    · intro hlost
      exact ⟨hlost.lost, fun h => hlost.other h.2.2⟩
    · rintro ⟨hlost, hnot⟩
      exact ⟨fun itself => hnot ⟨hq, hconcerned, itself⟩, hlost⟩
  refine ⟨?_, ?_, ?_, ht.ascending, ?_, ?_, ht.nodup, fun d hd => (ht.stands d hd).1, ?_, ?_, ?_⟩
  · rw [ht.collapsed]
    exact (affected_ascending hg).sublist List.filter_sublist
  · intro q
    rw [hcollapsed]
    refine and_congr_right fun _ => and_congr_right fun hconcerned => ?_
    exact counterpart_eq_iff hconcerned.involves hne
  · intro q hq
    obtain ⟨hq, hconcerned, itself⟩ := (hcollapsed q).1 hq
    exact (hp.isDeleted_iff hg hq hconcerned).2 fun h => h.counterpart_ne itself
  · intro r
    constructor
    · intro hr
      obtain ⟨hr, q, hq, hconcerned, heq⟩ := hrenamed hr
      exact ⟨hr, q, hq, hconcerned, by rw [heq]; rfl⟩
    · rintro ⟨hr, q, hq, hconcerned, hid⟩
      obtain ⟨hsurvives, rfl⟩ := hp.eq_substitute hg hq hconcerned hr hid
      exact (ht.mem_renamed _).2 ⟨q, mem_affected.2 ⟨hq, hconcerned⟩, hsurvives, rfl⟩
  · intro r hr
    obtain ⟨-, q, hq, -, heq⟩ := hrenamed hr
    exact ⟨q, hq, heq⟩
  · intro q hq hconcerned hdeleted hnot
    obtain ⟨d, hd, hpair⟩ := ht.covered q (mem_affected.2 ⟨hq, hconcerned⟩)
      ((hlost hq hconcerned).2 ⟨hdeleted, hnot⟩)
    refine ⟨d, ⟨hd, hpair⟩, ?_⟩
    -- Two rows that are each the first of one pair are the same row.
    rintro d' ⟨hd', hpair'⟩
    exact (ht.stands d' hd').1.eq hp.table (ht.stands d hd).1 (hpair'.trans hpair.symm)
  · intro d hd
    obtain ⟨q, hq, hq', hpair⟩ := ht.grounded d hd
    obtain ⟨hq, hconcerned⟩ := mem_affected.1 hq
    obtain ⟨hdeleted, hnot⟩ := (hlost hq hconcerned).1 hq'
    exact ⟨q, hq, hconcerned, hdeleted, hnot, hpair⟩
  · intro q hdeleted r hr
    exact hdeleted r (hrenamed hr).1

/-- A merge of two different numbers succeeds on a sound register, and its results account for every
record that it concerns. -/
theorem run_accounts {s : Session} (hs : s.isBroken = false) (hg : s.working.IsSound)
    (hold : old ≠ "") (hnew : new ≠ "") (hne : old ≠ new) (w : Window) :
    ∃ m h, (run old new w).run s = .ok m { s with working := h } ∧
      Accounts s.working old new w m h := by
  obtain ⟨m, h, hrun, hpassed⟩ := exists_run_passed hs hg hold hnew hne w
  have hsplit : affected s.working old w = affected s.working old w ++ [] :=
    (List.append_nil _).symm
  have hp := hpassed.progress hg.table hne hsplit
  have ht := hpassed.tally hg.table hne hsplit
  exact ⟨m, h, hrun, ht.accounts hg.table hne hp⟩

/-- Besides a couple, the first of two records of the same pair: it is renamed, and the second one
leaves its pair to it. -/
theorem run_accounts_crowd :
    ∃ g h : Register, g.IsSound ∧
      (run "A1" "B2" {}).run (Session.start g) =
        .ok ⟨[plain 2 "B2" "C3"], [plain 2 "B2" "C3"], [plain 1 "A1" "B2"]⟩
          { Session.start g with working := h } ∧
      Accounts g "A1" "B2" {} ⟨[plain 2 "B2" "C3"], [plain 2 "B2" "C3"], [plain 1 "A1" "B2"]⟩ h := by
  let crowd : Register := ⟨couple.records ++ [plain 3 "A1" "C3"]⟩
  have hcrowd : crowd.IsSound := by
    refine ⟨⟨?_, ?_⟩, by decide, by decide⟩ <;>
      simp [crowd, couple, plain, Register.ids, Column.isStorable]
  obtain ⟨m, h, hrun, haccounts⟩ := run_accounts (s := Session.start crowd) rfl hcrowd
    (by decide) (by decide) (by decide : "A1" ≠ "B2") {}
  have hresult : (run "A1" "B2" {}).run (Session.start crowd) =
      .ok ⟨[plain 2 "B2" "C3"], [plain 2 "B2" "C3"], [plain 1 "A1" "B2"]⟩
        { Session.start crowd with working := ⟨[plain 2 "B2" "C3"]⟩ } := rfl
  rw [hresult] at hrun
  cases hrun
  exact ⟨crowd, _, hcrowd, hresult, haccounts⟩

end KeepApart.Merge
