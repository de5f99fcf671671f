import Mathlib.Data.List.Nodup
import Mathlib.Tactic.Common
import KeepApart.Register
import KeepApart.Register.Column

/-!
# Registers as tables

A table keeps every record under an id that storage can hold, in ascending order of ids. Adding,
replacing and removing make tables of tables, and the lemmas here say which records they leave. A
record that is stored, new or not, takes the place under its id and touches no other.
-/

namespace KeepApart.Register

def ids (g : Register) : List (Option Int) := g.records.map (·.id)

/-- Every record has an id that storage can hold, and the ids ascend. -/
structure IsTable (g : Register) : Prop where
  storable : ∀ i ∈ g.ids, ∃ n, i = some n ∧ Column.isStorable n = true
  ascending : g.ids.Pairwise (· < ·)

theorem isTable_empty : empty.IsTable := by
  constructor <;> simp [ids, empty]

theorem mem_ids {g : Register} {r : Record} (hr : r ∈ g.records) : r.id ∈ g.ids :=
  List.mem_map_of_mem hr

theorem id_lt_asymm {i j : Option Int} (h : i < j) : ¬ j < i := by
  cases i <;> cases j <;> simp at h ⊢
  omega

theorem id_lt_irrefl (i : Option Int) : ¬ i < i := fun h => id_lt_asymm h h

theorem id_eq_of_not_lt {i j : Option Int} (h : ¬ i < j) (h' : ¬ j < i) : i = j := by
  cases i <;> cases j <;> simp at h h' ⊢
  omega

namespace IsTable

variable {g : Register} {r s : Record} {n : Int}

theorem exists_id (hg : g.IsTable) (hr : r ∈ g.records) :
    ∃ n, r.id = some n ∧ Column.isStorable n = true :=
  hg.storable r.id (mem_ids hr)

theorem nodup_ids (hg : g.IsTable) : g.ids.Nodup := by
  apply hg.ascending.imp
  intro i j hij heq
  rw [heq] at hij
  exact id_lt_irrefl j hij

theorem ascending_of_sublist {rs : List Record} (hg : g.IsTable) (h : rs.Sublist g.records) :
    rs.Pairwise fun a b => a.id < b.id :=
  (List.pairwise_map.1 hg.ascending).sublist h

theorem eq_of_id_eq (hg : g.IsTable) (hr : r ∈ g.records) (hs : s ∈ g.records)
    (h : r.id = s.id) : r = s :=
  List.inj_on_of_nodup_map hg.nodup_ids hr hs h

theorem find?_eq_some_iff (hg : g.IsTable) :
    g.find? n = some r ↔ r ∈ g.records ∧ r.id = some n := by
  unfold Register.find?
  constructor
  · intro h
    exact ⟨List.mem_of_find?_eq_some h, by simpa using List.find?_some h⟩
  · rintro ⟨hr, hid⟩
    cases h : g.records.find? fun s => s.id == some n with
    | none => exact absurd (List.find?_eq_none.1 h r hr) (by simp [hid])
    | some s =>
        have hs : s.id = some n := by simpa using List.find?_some h
        rw [hg.eq_of_id_eq (List.mem_of_find?_eq_some h) hr (hs.trans hid.symm)]

end IsTable

/-! ## Look-ups by pair -/

variable {g : Register} {r s : Record} {a b : String}

theorem withPair?_eq_none_iff :
    g.withPair? a b = none ↔ ∀ r ∈ g.records, r.pair ≠ (a, b) := by
  simp only [withPair?, List.find?_eq_none, Record.hasPair_iff, ne_eq]

theorem withPair?_eq_some (h : g.withPair? a b = some r) : r ∈ g.records ∧ r.pair = (a, b) := by
  unfold withPair? at h
  have hpair := List.find?_some h
  exact ⟨List.mem_of_find?_eq_some h, Record.hasPair_iff.1 hpair⟩

theorem mem_openBetween :
    r ∈ g.openBetween a b ↔ r ∈ g.records ∧ r.isOpen = true ∧ r.isBetween a b = true := by
  simp only [openBetween, List.mem_filter, Bool.and_eq_true]

def NoOtherOpen (g : Register) (id : Option Int) (first second : String) : Prop :=
  ∀ e ∈ g.records, e.isOpen = true → e.isBetween first second = true → e.id = id

theorem openBetween_filter_eq_nil_iff {id : Option Int} :
    ((g.openBetween a b).filter fun e => e.id != id) = [] ↔ g.NoOtherOpen id a b := by
  simp only [NoOtherOpen, List.filter_eq_nil_iff, mem_openBetween, bne_iff_ne, not_not, and_imp]

/-! ## Removing -/

theorem mem_remove {n : Int} :
    r ∈ (g.remove n).records ↔ r ∈ g.records ∧ r.id ≠ some n := by
  simp [remove]

theorem IsTable.remove (hg : g.IsTable) (n : Int) : (g.remove n).IsTable := by
  have hsub : (g.remove n).ids.Sublist g.ids := List.filter_sublist.map _
  exact ⟨fun i hi => hg.storable i (hsub.subset hi), hg.ascending.sublist hsub⟩

/-! ## Storing -/

private theorem le_foldl_max (ns : List Int) (a : Int) :
    a ≤ ns.foldl max a ∧ ∀ n ∈ ns, n ≤ ns.foldl max a := by
  induction ns generalizing a with
  | nil => simp
  | cons m ns ih =>
      obtain ⟨ha, hns⟩ := ih (max a m)
      simp only [List.foldl_cons, List.mem_cons]
      refine ⟨by omega, ?_⟩
      rintro n (rfl | hn)
      · omega
      · exact hns n hn

theorem le_lastId {n : Int} (hr : r ∈ g.records) (hid : r.id = some n) : n ≤ g.lastId :=
  (le_foldl_max _ 0).2 n (List.mem_filterMap.2 ⟨r, hr, hid⟩)

theorem id_ne_identified (hs : s ∈ g.records) : s.id ≠ (g.identified r).id := by
  intro heq
  have hle := le_lastId hs heq
  omega

theorem ids_add : (g.add r).ids = g.ids ++ [some (g.lastId + 1)] := by
  simp [ids, add, identified]

theorem IsTable.add (hg : g.IsTable) (hn : Column.isStorable (g.lastId + 1) = true) (r : Record) :
    (g.add r).IsTable := by
  constructor
  · intro i hi
    rw [ids_add, List.mem_append, List.mem_singleton] at hi
    rcases hi with hi | rfl
    · exact hg.storable i hi
    · exact ⟨_, rfl, hn⟩
  · rw [ids_add, List.pairwise_append]
    refine ⟨hg.ascending, List.pairwise_singleton _ _, ?_⟩
    intro i hi j hj
    obtain ⟨s, hs, rfl⟩ := List.mem_map.1 hi
    obtain ⟨n, hid, -⟩ := hg.exists_id hs
    have hle := le_lastId hs hid
    rw [List.mem_singleton.1 hj, hid, Option.some_lt_some]
    omega

theorem ids_replace : (g.replace r).ids = g.ids := by
  simp only [ids, replace, List.map_map]
  apply List.map_congr_left
  intro s _
  by_cases h : s.id = r.id <;> simp [h]

theorem IsTable.replace (hg : g.IsTable) (r : Record) : (g.replace r).IsTable := by
  constructor
  · rw [ids_replace]
    exact hg.storable
  · rw [ids_replace]
    exact hg.ascending

structure IsUpdate (g : Register) (r : Record) (h : Register) : Prop where
  table : h.IsTable
  mem_iff : ∀ s, s ∈ h.records ↔ s = r ∨ (s ∈ g.records ∧ s.id ≠ r.id)

theorem IsTable.isUpdate_add (hg : g.IsTable) (hn : Column.isStorable (g.lastId + 1) = true)
    (r : Record) : g.IsUpdate (g.identified r) (g.add r) where
  table := hg.add hn r
  mem_iff := by
    intro s
    have hfresh : s ∈ g.records → s.id ≠ (g.identified r).id := id_ne_identified
    simp only [Register.add, List.mem_append, List.mem_singleton]
    tauto

theorem IsTable.isUpdate_replace (hg : g.IsTable) (hs : s ∈ g.records) (hid : s.id = r.id) :
    g.IsUpdate r (g.replace r) where
  table := hg.replace r
  mem_iff := by
    intro t
    simp only [Register.replace, List.mem_map, beq_iff_eq]
    constructor
    · rintro ⟨u, hu, rfl⟩
      by_cases h : u.id = r.id
      · exact .inl (if_pos h)
      · rw [if_neg h]
        exact .inr ⟨hu, h⟩
    · rintro (rfl | ⟨ht, hne⟩)
      · exact ⟨s, hs, if_pos hid⟩
      · exact ⟨t, ht, if_neg hne⟩

/-- Storing `r` in the table `g` gives the stored record `v` and leaves the table `h`: a record without
an id gets a new one, a record with an id takes the place of the one that has it. -/
structure Stores (g : Register) (r v : Record) (h : Register) : Prop where
  closure : v.closureConsistent = true
  update : g.IsUpdate v h
  origin : (r.id = none ∧ v = g.identified r) ∨ (v = r ∧ ∃ e ∈ g.records, e.id = r.id)

/-- A record that may be stored. A new one is of two different prisoners, one that takes the place of
another keeps its pair, and none becomes a further open record of its pair. -/
inductive Admits (g : Register) (v : Record) : Prop where
  | new (fresh : ∀ e ∈ g.records, e.id ≠ v.id) (differ : v.firstNumber ≠ v.secondNumber)
      (alone : v.isOpen = true → g.NoOtherOpen v.id v.firstNumber v.secondNumber)
  | again (e : Record) (stored : e ∈ g.records) (id : e.id = v.id) (pair : e.pair = v.pair)
      (alone : v.isOpen = true →
        e.isOpen = true ∨ g.NoOtherOpen v.id v.firstNumber v.secondNumber)

namespace Stores

variable {v e : Record} {h : Register}

theorem eq_identified (hv : g.Stores r v h) (hid : r.id = none) (hg : g.IsTable) :
    v = g.identified r := by
  rcases hv.origin with ⟨-, heq⟩ | ⟨-, e, he, heid⟩
  · exact heq
  · obtain ⟨n, hn, -⟩ := hg.exists_id he
    rw [heid, hid] at hn
    cases hn

theorem eq_of_stored (hv : g.Stores r v h) (he : e ∈ g.records) (hid : r.id = e.id)
    (hg : g.IsTable) : v = r := by
  rcases hv.origin with ⟨hnone, -⟩ | ⟨heq, -⟩
  · obtain ⟨n, hn, -⟩ := hg.exists_id he
    rw [← hid, hnone] at hn
    cases hn
  · exact heq

theorem admits_new (hv : g.Stores r v h) (hid : r.id = none)
    (differ : r.firstNumber ≠ r.secondNumber)
    (alone : r.isOpen = true → g.NoOtherOpen none r.firstNumber r.secondNumber)
    (hg : g.IsTable) : g.Admits v := by
  obtain rfl := hv.eq_identified hid hg
  refine .new (fun e he => id_ne_identified he) differ ?_
  intro hopen e he heopen hbetween
  obtain ⟨n, hn, -⟩ := hg.exists_id he
  have hnone := alone hopen e he heopen hbetween
  rw [hn] at hnone
  cases hnone

theorem admits_again (hv : g.Stores r v h) (he : e ∈ g.records) (hid : r.id = e.id)
    (pair : r.pair = e.pair)
    (alone : r.isOpen = true →
      e.isOpen = true ∨ g.NoOtherOpen e.id e.firstNumber e.secondNumber)
    (hg : g.IsTable) : g.Admits v := by
  obtain rfl := hv.eq_of_stored he hid hg
  obtain ⟨hfirst, hsecond⟩ := Prod.mk.inj pair
  refine .again e he hid.symm pair.symm ?_
  rw [hid, hfirst, hsecond]
  exact alone

end Stores

/-! ## Sound registers -/

structure IsSound (g : Register) : Prop where
  table : g.IsTable
  closures : ∀ r ∈ g.records, r.closureConsistent = true
  pairs : ∀ r ∈ g.records, r.firstNumber ≠ r.secondNumber

theorem isSound_empty : empty.IsSound := by
  refine ⟨isTable_empty, ?_, ?_⟩ <;> simp [empty]

theorem IsSound.update {v : Record} {h : Register} (hg : g.IsSound)
    (hclosure : v.closureConsistent = true) (hv : g.Admits v) (hh : g.IsUpdate v h) :
    h.IsSound := by
  have hpair : v.firstNumber ≠ v.secondNumber := by
    cases hv with
    | new _ differ _ => exact differ
    | again e he _ pair _ =>
        obtain ⟨hfirst, hsecond⟩ := Prod.mk.inj pair
        rw [← hfirst, ← hsecond]
        exact hg.pairs e he
  refine ⟨hh.table, ?_, ?_⟩
  · intro r hr
    rcases (hh.mem_iff r).1 hr with rfl | ⟨hr, -⟩
    · exact hclosure
    · exact hg.closures r hr
  · intro r hr
    rcases (hh.mem_iff r).1 hr with rfl | ⟨hr, -⟩
    · exact hpair
    · exact hg.pairs r hr

end KeepApart.Register
