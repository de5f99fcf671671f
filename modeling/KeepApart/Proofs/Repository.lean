import KeepApart.Proofs.Merge.Results
import KeepApart.Proofs.Publication

/-!
# Stored records as a map

What was saved and deleted since storage was empty says all there is to know of it. Under each id stands
the record that was saved under it last, unless it was deleted afterwards. A search gives those that meet
its condition, each once and in ascending order of ids.
-/

namespace KeepApart

open KeepApart.Action

variable {writes : List Write} {w : Write} {s t : Session} {g h : Register} {r q : Record} {v : Saved}
variable {a b : String} {i n : Int}

/-! ## What was written -/

/-- A session in which these writes were made since storage was empty, the first one first. A record is
written as it was handed in, under the id that it came out with. -/
inductive Session.Wrote : List Write → Session → Prop where
  | nothing : Wrote [] (.start .empty)
  | saved {writes : List Write} {s t : Session} {r : Record} {v : Saved} (before : Wrote writes s)
      (run : (saveDraft r.draft).run s = .ok v t) :
      Wrote (writes ++ [.put { r with id := v.record.id }]) t
  | deleted {writes : List Write} {s t : Session} {id : Option Int} (before : Wrote writes s)
      (run : (Action.delete id).run s = .ok () t) : Wrote (writes ++ [.remove id]) t

namespace Write

def id : Write → Option Int
  | put r => r.id
  | remove id => id

def leaves (w : Write) (i : Int) (before : Option Record) : Option Record :=
  match w with
  | put r => if r.id = some i then some r else before
  | remove id => if id = some i then none else before

/-- The record that was saved under the id last, or none when there is none or it was deleted since. -/
def held (writes : List Write) (i : Int) : Option Record :=
  writes.foldl (fun before w => w.leaves i before) none

def IsHeld (writes : List Write) (r : Record) : Prop := ∃ i, held writes i = some r

/-- These are the records in the end that meet a condition, each once and in ascending order of ids. -/
structure Selects (writes : List Write) (meets : Record → Prop) (rs : List Record) : Prop where
  ascending : rs.Pairwise fun a b => a.id < b.id
  mem_iff : ∀ r, r ∈ rs ↔ IsHeld writes r ∧ meets r

theorem held_concat (writes : List Write) (w : Write) (i : Int) :
    held (writes ++ [w]) i = w.leaves i (held writes i) := by
  rw [held, List.foldl_append]
  rfl

end Write

/-! ## Look-ups after a change -/

namespace Register

theorem find?_of_isUpdate (hg : g.IsTable) (hv : g.IsUpdate r h) (hid : r.id = some n) (i : Int) :
    h.find? i = if r.id = some i then some r else g.find? i := by
  apply Option.ext
  intro q
  rw [hv.table.find?_eq_some_iff, hv.mem_iff]
  by_cases hsame : r.id = some i
  · rw [if_pos hsame, Option.some.injEq]
    constructor
    · rintro ⟨rfl | ⟨-, hne⟩, hq⟩
      · rfl
      · exact absurd (hq.trans hsame.symm) hne
    · rintro rfl
      exact ⟨.inl rfl, hsame⟩
  · rw [if_neg hsame, hg.find?_eq_some_iff]
    constructor
    · rintro ⟨rfl | ⟨hq, -⟩, hqi⟩
      · exact absurd hqi hsame
      · exact ⟨hq, hqi⟩
    · rintro ⟨hq, hqi⟩
      exact ⟨.inr ⟨hq, fun heq => hsame (heq.symm.trans hqi)⟩, hqi⟩

theorem find?_remove (hg : g.IsTable) (n i : Int) :
    (g.remove n).find? i = if some n = some i then none else g.find? i := by
  apply Option.ext
  intro q
  rw [(hg.remove n).find?_eq_some_iff, mem_remove]
  by_cases hsame : some n = some i
  · rw [if_pos hsame]
    constructor
    · rintro ⟨⟨-, hne⟩, hq⟩
      exact absurd (hq.trans hsame.symm) hne
    · exact nofun
  · rw [if_neg hsame, hg.find?_eq_some_iff]
    constructor
    · rintro ⟨⟨hq, -⟩, hqi⟩
      exact ⟨hq, hqi⟩
    · rintro ⟨hq, hqi⟩
      exact ⟨⟨hq, fun heq => hsame (heq.symm.trans hqi)⟩, hqi⟩

end Register

/-! ## Saving and deleting -/

theorem Register.find?_next (hg : g.IsTable) : g.find? (g.lastId + 1) = none := by
  rw [Option.eq_none_iff_forall_ne_some]
  intro e he
  obtain ⟨hmem, hid⟩ := hg.find?_eq_some_iff.1 he
  exact Register.id_ne_identified (r := e) hmem hid

theorem Register.Stores.record (hq : g.Stores r q h) : q = { r with id := q.id } := by
  rcases hq.origin with ⟨-, rfl⟩ | ⟨rfl, -⟩ <;> rfl

theorem stores_of_saveDraft_draft (hg : s.working.IsTable)
    (hrun : (saveDraft r.draft).run s = .ok v t) : s.working.Stores r v.record t.working := by
  obtain ⟨q, hq, hstores⟩ := stores_of_saveDraft hg hrun
  rw [← Draft.record_eq_ok, Record.record_draft] at hq
  obtain rfl := Except.ok.inj hq
  exact hstores

/-- What is saved after these writes comes out as it was handed in, under its id or under one that
nothing has, and is found there. -/
structure Session.Saves (writes : List Write) (r : Record) (v : Saved) (t : Session) : Prop where
  record : v.record = { r with id := v.record.id }
  again : ∀ n, r.id = some n → v.record.id = some n
  fresh : r.id = none → ∃ n, v.record.id = some n ∧ Write.held writes n = none
  found : ∀ n, v.record.id = some n → (find? n).run t = .ok (some v.record) t

structure Session.Holds (s : Session) (writes : List Write) : Prop where
  ready : s.isBroken = false
  table : s.working.IsTable
  found : ∀ i, s.working.find? i = Write.held writes i
  storable : ∀ w ∈ writes, ∃ i, w.id = some i ∧ Column.isStorable i = true

namespace Session.Holds

theorem nothing : (Session.start .empty).Holds [] :=
  ⟨rfl, Register.isTable_empty, fun _ => rfl, List.forall_mem_nil _⟩

theorem saved (hs : s.Holds writes) (hrun : (saveDraft r.draft).run s = .ok v t) :
    t.Holds (writes ++ [.put { r with id := v.record.id }]) := by
  have hstores := stores_of_saveDraft_draft hs.table hrun
  obtain ⟨n, hn, hstorable⟩ :=
    hstores.update.table.exists_id ((hstores.update.mem_iff v.record).2 (.inl rfl))
  rw [← hstores.record]
  refine ⟨?_, hstores.update.table, ?_, ?_⟩
  · cases StorageCall.effect_of_save hrun with
    | saved ready _ => exact ready
  · intro i
    rw [Write.held_concat, ← hs.found i]
    exact Register.find?_of_isUpdate hs.table hstores.update hn i
  · intro w hw
    rcases List.mem_append.1 hw with hw | hw
    · exact hs.storable w hw
    · obtain rfl := List.mem_singleton.1 hw
      exact ⟨n, hn, hstorable⟩

theorem deleted {id : Option Int} (hs : s.Holds writes) (hrun : (Action.delete id).run s = .ok () t) :
    t.Holds (writes ++ [.remove id]) := by
  obtain ⟨hb, n, rfl, hn, -, rfl⟩ := delete_eq_ok.1 hrun
  refine ⟨hb, hs.table.remove n, ?_, ?_⟩
  · intro i
    rw [Write.held_concat, ← hs.found i]
    exact Register.find?_remove hs.table n i
  · intro w hw
    rcases List.mem_append.1 hw with hw | hw
    · exact hs.storable w hw
    · obtain rfl := List.mem_singleton.1 hw
      exact ⟨n, rfl, hn⟩

theorem of_wrote (hs : s.Wrote writes) : s.Holds writes := by
  induction hs with
  | nothing => exact nothing
  | saved before run ih => exact ih.saved run
  | deleted before run ih => exact ih.deleted run

theorem mem_records_iff (hs : s.Holds writes) : r ∈ s.working.records ↔ Write.IsHeld writes r := by
  constructor
  · intro hr
    obtain ⟨n, hn, -⟩ := hs.table.exists_id hr
    exact ⟨n, hs.found n ▸ hs.table.find?_eq_some_iff.2 ⟨hr, hn⟩⟩
  · rintro ⟨n, hn⟩
    rw [← hs.found n] at hn
    exact (hs.table.find?_eq_some_iff.1 hn).1

theorem run_find? (hs : s.Holds writes) (i : Int) : (find? i).run s =
    if Column.isStorable i = true then .ok (Write.held writes i) s else .error .overflow s := by
  by_cases hi : Column.isStorable i = true
  · rw [if_pos hi]
    exact find?_eq_ok.2 ⟨hs.ready, hi, hs.found i, rfl⟩
  · rw [if_neg hi]
    exact find?_eq_error.2 ⟨.inr ⟨hs.ready, Bool.eq_false_iff.2 hi, rfl⟩, rfl⟩

theorem saves (hs : s.Holds writes) (hrun : (saveDraft r.draft).run s = .ok v t) :
    Session.Saves writes r v t := by
  have hstores := stores_of_saveDraft_draft hs.table hrun
  refine ⟨hstores.record, ?_, ?_, ?_⟩
  · intro n hn
    rcases hstores.origin with ⟨hnone, -⟩ | ⟨heq, -⟩
    · rw [hnone] at hn
      cases hn
    · rwa [heq]
  · intro hnone
    rw [hstores.eq_identified hnone hs.table]
    exact ⟨s.working.lastId + 1, rfl, hs.found _ ▸ Register.find?_next hs.table⟩
  · intro n hn
    have hafter := hs.saved hrun
    rw [← hstores.record] at hafter
    obtain ⟨i, hi, hstorable⟩ :=
      hafter.storable _ (List.mem_append_right _ (List.mem_singleton.2 rfl))
    obtain rfl : i = n := Option.some.inj (hi.symm.trans hn)
    rw [hafter.run_find?, if_pos hstorable, Write.held_concat, Write.leaves, if_pos hn]

theorem selects (hs : s.Holds writes) {p : Record → Bool} {meets : Record → Prop}
    (hp : ∀ r, p r = true ↔ meets r) : Write.Selects writes meets (s.working.records.filter p) where
  ascending := hs.table.ascending_of_sublist List.filter_sublist
  mem_iff := by
    intro r
    rw [List.mem_filter, hs.mem_records_iff, hp]

theorem withPair?_eq_some_iff (hs : s.Holds writes) : s.working.withPair? a b = some r ↔
    (Write.IsHeld writes r ∧ r.pair = (a, b)) ∧
      ∀ q, Write.IsHeld writes q → q.pair = (a, b) → ¬ q.id < r.id := by
  have hfirst {d : Record} (hd : s.working.withPair? a b = some d) : d ∈ s.working.records ∧
      d.pair = (a, b) ∧ ∀ q ∈ s.working.records, q.pair = (a, b) → ¬ q.id < d.id := by
    obtain ⟨hstored, hpair⟩ := Register.withPair?_eq_some hd
    refine ⟨hstored, hpair, ?_⟩
    intro q hq hqpair
    exact (Merge.isFirst_of_withPair? hs.table hd).first q hq (hqpair.trans hpair.symm)
  simp only [← hs.mem_records_iff]
  constructor
  · intro hr
    obtain ⟨hstored, hpair, hleast⟩ := hfirst hr
    exact ⟨⟨hstored, hpair⟩, hleast⟩
  · rintro ⟨⟨hstored, hpair⟩, hleast⟩
    cases hd : s.working.withPair? a b with
    | none => exact absurd hpair (Register.withPair?_eq_none_iff.1 hd r hstored)
    | some d =>
        -- Neither of the two has a smaller id than the other one.
        obtain ⟨hstored', hpair', hleast'⟩ := hfirst hd
        have hid : d.id = r.id :=
          Register.id_eq_of_not_lt (hleast d hstored' hpair') (hleast' r hstored hpair)
        rw [hs.table.eq_of_id_eq hstored' hstored hid]

end Session.Holds

/-! ## Searching -/

theorem Register.openBetween_comm (g : Register) (a b : String) :
    g.openBetween a b = g.openBetween b a := by
  simp only [openBetween, Record.isBetween_comm _ a b]

theorem Register.among_congr {numbers numbers' : List String} (g : Register)
    (h : ∀ n, n ∈ numbers ↔ n ∈ numbers') : g.among numbers = g.among numbers' := by
  apply List.filter_congr
  intro r _
  rw [Bool.eq_iff_iff]
  simp only [Bool.and_eq_true, List.contains_iff_mem, h]

/-- A look-up gives what is under an id after these writes, and a search gives those of the records that
meet its condition, the first of them if it gives only one. -/
structure Session.Tells (s : Session) (writes : List Write) : Prop where
  storable : ∀ w ∈ writes, ∃ i, w.id = some i ∧ Column.isStorable i = true
  found : ∀ i, (find? i).run s =
    if Column.isStorable i = true then .ok (Write.held writes i) s else .error .overflow s
  searched : register.run s = .ok s.working s
  involving : ∀ n, Write.Selects writes (fun r => r.firstNumber = n ∨ r.secondNumber = n)
    (s.working.involving n)
  openBetween : ∀ a b, Write.Selects writes
    (fun r => r.isOpen = true ∧ (r.pair = (a, b) ∨ r.pair = (b, a))) (s.working.openBetween a b)
  among : ∀ numbers, Write.Selects writes
    (fun r => r.firstNumber ∈ numbers ∧ r.secondNumber ∈ numbers) (s.working.among numbers)
  withPair : ∀ a b r, s.working.withPair? a b = some r ↔ (Write.IsHeld writes r ∧ r.pair = (a, b)) ∧
    ∀ q, Write.IsHeld writes q → q.pair = (a, b) → ¬ q.id < r.id
  withoutPair : ∀ a b, s.working.withPair? a b = none ↔
    ∀ r, Write.IsHeld writes r → r.pair ≠ (a, b)
  unordered : ∀ a b, s.working.openBetween a b = s.working.openBetween b a
  grouped : ∀ numbers numbers', (∀ n, n ∈ numbers ↔ n ∈ numbers') →
    s.working.among numbers = s.working.among numbers'

theorem Session.Holds.tells (hs : s.Holds writes) : s.Tells writes where
  storable := hs.storable
  found := hs.run_find?
  searched := run_register hs.ready
  involving _ := hs.selects fun _ => Record.involves_iff
  openBetween _ _ := hs.selects fun r => by rw [Bool.and_eq_true, Record.isBetween_iff]
  among _ := hs.selects fun r => by
    rw [Bool.and_eq_true, List.contains_iff_mem, List.contains_iff_mem]
  withPair _ _ _ := hs.withPair?_eq_some_iff
  withoutPair a b := by
    rw [Register.withPair?_eq_none_iff]
    simp only [hs.mem_records_iff]
  unordered := s.working.openBetween_comm
  grouped _ _ := s.working.among_congr

/-- After any saves and deletes that succeeded, storage is the map of what was written last under each
id, and what is saved next is added to it as it is handed in. -/
theorem Session.wrote_is_map (hs : s.Wrote writes) : s.Tells writes ∧
    ∀ (r : Record) v t, (saveDraft r.draft).run s = .ok v t → Saves writes r v t := by
  have hholds : s.Holds writes := .of_wrote hs
  refine ⟨hholds.tells, ?_⟩
  intro r v t hrun
  exact hholds.saves hrun

/-- Two records are saved, the first one is deleted and one more record is saved. -/
theorem Session.wrote_is_map_rivals :
    let fresh (a b : String) : Record := { Merge.plain 0 a b with id := none }
    let writes : List Write := [.put (Merge.plain 1 "A1" "B2"), .put (Merge.plain 2 "B2" "A1"),
      .remove (some 1), .put (Merge.plain 3 "A1" "B2")]
    ∃ s : Session, s.Wrote writes ∧ s.Tells writes ∧
      (find? 1).run s = .ok none s ∧ (find? 3).run s = .ok (some (Merge.plain 3 "A1" "B2")) s ∧
      ∃ v t, (saveDraft (fresh "C3" "A1").draft).run s = .ok v t ∧
        Saves writes (fresh "C3" "A1") v t := by
  intro fresh writes
  let s : Session := { Session.start .empty with
    working := ⟨[Merge.plain 2 "B2" "A1", Merge.plain 3 "A1" "B2"]⟩ }
  have hs : s.Wrote writes := by
    have h1 := Wrote.saved (r := fresh "A1" "B2") .nothing rfl
    have h2 := Wrote.saved (r := fresh "B2" "A1") h1 rfl
    have h3 := Wrote.deleted h2 (rfl : (Action.delete (some 1)).run _ = _)
    exact Wrote.saved (r := fresh "A1" "B2") h3 rfl
  obtain ⟨htells, hsaves⟩ := wrote_is_map hs
  obtain ⟨v, t, hrun⟩ : ∃ v t, (saveDraft (fresh "C3" "A1").draft).run s = .ok v t := ⟨_, _, rfl⟩
  exact ⟨s, hs, htells, htells.found 1, htells.found 3, v, t, hrun, hsaves _ v t hrun⟩

end KeepApart
