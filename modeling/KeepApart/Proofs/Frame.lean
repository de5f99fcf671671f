import KeepApart.Proofs.Atomicity

/-!
# What calls leave alone

An edit adds one record or changes one, and every other record stays as it is. A record that it changes
keeps its id, its pair and its time of creation. So when a record is gone or has another pair, a merge
of one of its numbers has done it.
-/

namespace KeepApart

open KeepApart.Action Register

variable {g h : Register} {c : Edit} {r v : Record}

/-! ## One edit -/

namespace Edit.Effect

theorem isUpdate (hc : c.Effect g v h) : g.IsUpdate v h := by
  cases hc with
  | new stores _ _ _ => exact stores.update
  | again stores _ _ _ _ => exact stores.update

theorem continues (hc : c.Effect g v h) (hg : g.IsTable) (hr : r ∈ g.records)
    (hid : r.id = v.id) :
    v.Continues r ∧ (¬ c.Overwrites r.id → v.authorisedBy = r.authorisedBy) := by
  cases hc with
  | new stores hnone _ _ =>
      rw [stores.eq_identified hnone hg] at hid
      exact absurd hid (id_ne_identified hr)
  | again stores stored hcontinues _ authorised =>
      have hv := stores.eq_of_stored stored hcontinues.succeeds.1 hg
      have hsame : r.id = _ := hid.trans (hv ▸ hcontinues.succeeds.1)
      rw [hv, hg.eq_of_id_eq hr stored hsame]
      exact ⟨hcontinues, authorised⟩

end Edit.Effect

structure Edit.Frames (c : Edit) (g : Register) (v : Record) (h : Register) : Prop where
  ids_nodup : h.ids.Nodup
  stored : v ∈ h.records
  others : ∀ r, r.id ≠ v.id → (r ∈ h.records ↔ r ∈ g.records)
  kept : ∀ r ∈ g.records, ∃ r' ∈ h.records, r'.id = r.id
  pair : ∀ r ∈ g.records, r.id = v.id → v.pair = r.pair
  created : ∀ r ∈ g.records, r.id = v.id → v.whenCreated = r.whenCreated
  authorised : ∀ r ∈ g.records, r.id = v.id → ¬ c.Overwrites r.id →
    v.authorisedBy = r.authorisedBy

theorem Edit.Effect.frames (hc : c.Effect g v h) (hg : g.IsTable) : c.Frames g v h where
  ids_nodup := hc.isUpdate.table.nodup_ids
  stored := (hc.isUpdate.mem_iff v).2 (.inl rfl)
  others := by
    intro r hid
    have hne : r ≠ v := fun heq => hid (congrArg Record.id heq)
    rw [hc.isUpdate.mem_iff]
    simp [hne, hid]
  kept := by
    intro r hr
    by_cases hid : r.id = v.id
    · exact ⟨v, (hc.isUpdate.mem_iff v).2 (.inl rfl), hid.symm⟩
    · exact ⟨r, (hc.isUpdate.mem_iff r).2 (.inr ⟨hr, hid⟩), rfl⟩
  pair := fun _ hr hid => (hc.continues hg hr hid).1.succeeds.2
  created := fun _ hr hid => (hc.continues hg hr hid).1.created
  authorised := fun _ hr hid => (hc.continues hg hr hid).2

/-! ## Histories -/

namespace Register

variable {id : Option Int} {p : String × String}

def Holds (g : Register) (id : Option Int) (p : String × String) : Prop :=
  ∃ r ∈ g.records, r.id = id ∧ r.pair = p

theorem Holds.after_edit (hp : g.Holds id p) (hg : g.IsTable) (c : Edit) :
    (g.after (.edit c)).Holds id p := by
  rw [Register.after, scope_snd]
  cases hrun : c.run.run (Session.start g) with
  | error f t => exact hp
  | ok v t =>
      have hc : c.Effect g v t.working := Edit.effect_of_run (by exact hg) hrun
      obtain ⟨r, hr, hid, hpair⟩ := hp
      by_cases hv : r.id = v.id
      · have hcontinues := (hc.continues hg hr hv).1.succeeds
        exact ⟨v, (hc.isUpdate.mem_iff v).2 (.inl rfl), hcontinues.1.trans hid,
          hcontinues.2.trans hpair⟩
      · exact ⟨r, (hc.isUpdate.mem_iff r).2 (.inr ⟨hr, hv⟩), hid, hpair⟩

/-- A merge leaves the records alone that do not mention the old number. -/
theorem Holds.after_merge {old new : String} (hp : g.Holds id p) (hg : g.IsSound) (w : Window)
    (hfirst : p.1 ≠ old) (hsecond : p.2 ≠ old) : (g.after (.merge old new w)).Holds id p := by
  rcases Register.after_merge hg old new w with h | ⟨-, h⟩
  · rw [h]
    exact hp
  · obtain ⟨r, hr, hid, rfl⟩ := hp
    have hother : ¬ Merge.Concerns old w r := by
      rintro ⟨hold | hold, -⟩
      · exact hfirst hold
      · exact hsecond hold
    exact ⟨r, (h.mem_iff_affected r).2 (.inl ⟨hr, hother⟩), hid, rfl⟩

/-- One of these calls is a merge of one of the two numbers, and until then, but not after it, the
register holds a record of the pair under the id. -/
def LostInMerge (steps more : List Step) (id : Option Int) (p : String × String) : Prop :=
  ∃ before old new w after, more = before ++ .merge old new w :: after ∧
    (p.1 = old ∨ p.2 = old) ∧ (reached (steps ++ before)).Holds id p ∧
      ¬ (reached (steps ++ before ++ [.merge old new w])).Holds id p

theorem LostInMerge.concat {steps more : List Step} (hp : LostInMerge steps more id p)
    (step : Step) : LostInMerge steps (more ++ [step]) id p := by
  obtain ⟨before, old, new, w, after, rfl, hlost⟩ := hp
  exact ⟨before, old, new, w, after ++ [step], by simp, hlost⟩

theorem holds_or_lostInMerge (steps more : List Step) (hp : (reached steps).Holds id p) :
    (reached (steps ++ more)).Holds id p ∨ LostInMerge steps more id p := by
  induction more using List.reverseRecOn with
  | nil =>
      rw [List.append_nil]
      exact .inl hp
  | append_singleton more step ih =>
      rcases ih with hmore | hlost
      · have hg := (reached_apart (steps ++ more)).1
        rw [← List.append_assoc, reached_concat]
        cases step with
        | edit c => exact .inl (hmore.after_edit hg.table c)
        | merge old new w =>
            by_cases hafter : ((reached (steps ++ more)).after (.merge old new w)).Holds id p
            · exact .inl hafter
            · have hmentions : p.1 = old ∨ p.2 = old := by
                by_contra hneither
                rw [not_or] at hneither
                exact hafter (hmore.after_merge hg w hneither.1 hneither.2)
              rw [← reached_concat] at hafter
              exact .inr ⟨more, old, new, w, [], rfl, hmentions, hmore, hafter⟩
      · exact .inr (hlost.concat step)

end Register

/-- On a register that a history leaves behind, an edit that succeeds adds or changes one record only
and deletes none, and the record it changes keeps its id, its pair, its time of creation and, unless the
legacy system overwrites it, who authorised it. Whatever calls follow, a record that is gone or has
another pair has lost it in a merge. -/
theorem only_merges_move_records (steps : List Step) :
    (∀ (c : Edit) (s t : Session) (v : Record), s.working = reached steps →
      c.run.run s = .ok v t → c.Frames (reached steps) v t.working) ∧
    ∀ (more : List Step), ∀ r ∈ (reached steps).records,
      (reached (steps ++ more)).Holds r.id r.pair ∨ LostInMerge steps more r.id r.pair := by
  have hg : (reached steps).IsTable := (reached_apart steps).1.table
  constructor
  · intro c s t v hs hrun
    rw [← hs] at hg ⊢
    exact (Edit.effect_of_run hg hrun).frames hg
  · intro more r hr
    exact holds_or_lostInMerge steps more ⟨r, hr, rfl, rfl⟩

/-- A record is closed in its place, and a merge of its first number gives it another pair. -/
theorem only_merges_move_records_renamed :
    ∃ (g : Register) (c : Edit) (v : Record) (t : Session),
      g = reached [.plain {} "A1" "C3" none] ∧ c.run.run (Session.start g) = .ok v t ∧
        v.isClosed = true ∧ c.Frames g v t.working ∧
        LostInMerge [.plain {} "A1" "C3" none] [.merge "A1" "B2" {}] (some 1) ("A1", "C3") := by
  let ctx : Context := ⟨Moment.earliest, none⟩
  have hrun : (Edit.close ctx 1 (some "Moved") none (some "USER") none).run.run
      (Session.start (reached [.plain {} "A1" "C3" none])) = .ok _ _ := rfl
  obtain ⟨hframes, hlost⟩ := only_merges_move_records [.plain {} "A1" "C3" none]
  refine ⟨_, _, _, _, rfl, hrun, rfl, hframes _ _ _ _ rfl hrun, ?_⟩
  have hafter : reached ([.plain {} "A1" "C3" none] ++ [.merge "A1" "B2" {}]) = ⟨_⟩ := rfl
  refine (hlost [.merge "A1" "B2" {}] _ (.head _)).resolve_left ?_
  rw [hafter]
  unfold Holds
  decide

end KeepApart
