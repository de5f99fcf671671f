import KeepApart.Proofs.OpenPairs

/-!
# What every stored record keeps

A property of single records holds throughout the register when every edit makes a record with it,
nothing in it depends on the id under which storage puts the record, and a merge does not take it away.
-/

namespace KeepApart

variable {P : Record → Prop} {g h : Register} {r v : Record}

def Record.IgnoresId (P : Record → Prop) : Prop :=
  ∀ (r : Record) (id : Option Int), P r → P { r with id := id }

namespace Register

theorem Stores.carries (hP : Record.IgnoresId P) (hv : g.Stores r v h) (hr : P r) : P v := by
  rcases hv.origin with ⟨-, rfl⟩ | ⟨rfl, -⟩
  · exact hP r _ hr
  · exact hr

theorem IsUpdate.all (hh : g.IsUpdate v h) (hg : ∀ r ∈ g.records, P r) (hv : P v) :
    ∀ r ∈ h.records, P r := by
  intro r hr
  rcases (hh.mem_iff r).1 hr with rfl | ⟨hr, -⟩
  · exact hv
  · exact hg r hr

theorem Stores.all (hP : Record.IgnoresId P) (hv : g.Stores r v h) (hg : ∀ r ∈ g.records, P r)
    (hr : P r) : ∀ r ∈ h.records, P r :=
  hv.update.all hg (hv.carries hP hr)

theorem all_after_edit {c : Edit} (hP : Record.IgnoresId P) (hg : g.IsTable)
    (hall : ∀ r ∈ g.records, P r) (hmakes : ∀ r, c.Makes g r → P r) :
    ∀ r ∈ (g.after (.edit c)).records, P r := by
  rw [after, Action.scope_snd]
  cases hrun : c.run.run (Session.start g) with
  | error f t => exact hall
  | ok v t =>
      obtain ⟨r, hr, hstores⟩ := Edit.makes_of_run (by exact hg) hrun
      have hr' : P r := hmakes r hr
      exact hstores.all hP hall hr'

theorem all_after_merge {old new : String} {w : Window} (hg : g.IsSound)
    (hmerged : ∀ r : Record, P r → P (r.substitute old new)) (hall : ∀ r ∈ g.records, P r) :
    ∀ r ∈ (g.after (.merge old new w)).records, P r := by
  rcases after_merge hg old new w with heq | ⟨-, hp⟩
  · rw [heq]
    exact hall
  · intro r hr
    rcases (hp.mem_iff_affected r).1 hr with ⟨hr, -⟩ | ⟨q, hq, rfl⟩
    · exact hall r hr
    · exact hmerged q (hall q hq.stored)

/-- A property that no merge takes away holds of all records that a history leaves, when every edit in
it makes a record with the property out of a register where all records have it. -/
theorem all_reached (hP : Record.IgnoresId P)
    (hmerged : ∀ (r : Record) (old new : String), P r → P (r.substitute old new))
    (steps : List Step)
    (hmakes : ∀ c, .edit c ∈ steps → ∀ g : Register, g.IsTable → (∀ e ∈ g.records, P e) →
      ∀ r, c.Makes g r → P r) :
    ∀ r ∈ (reached steps).records, P r := by
  induction steps using List.reverseRecOn with
  | nil => exact List.forall_mem_nil P
  | append_singleton steps step ih =>
      have hall : ∀ r ∈ (reached steps).records, P r :=
        ih fun c hc => hmakes c (List.mem_append_left _ hc)
      have hg : (reached steps).IsSound := (reached_apart steps).1
      rw [reached_concat]
      cases step with
      | edit c =>
          have hc : .edit c ∈ steps ++ [.edit c] := List.mem_append_right _ List.mem_cons_self
          exact all_after_edit hP hg.table hall (hmakes c hc _ hg.table hall)
      | merge old new w => exact all_after_merge hg (fun r => hmerged r old new) hall

end Register

end KeepApart
