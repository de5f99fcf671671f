import Mathlib.Algebra.Order.Ring.Unbundled.Rat
import Mathlib.Data.List.DropRight
import Mathlib.Data.List.Infix
import Mathlib.Order.Bounds.Basic
import KeepApart.Monitoring
import KeepApart.Proofs.Listing.Outcome

/-!
# What the statistics say

Timed calls may lie within each other and fail, and between their starts and ends the limits may change
and the statistics may be forgotten. At the end the statistics of an operation are those of its calls
that have ended since: how many there were, how many of them failed, how many took longer than the limit
that was in force when they ended, and how long the longest took. That holds whenever the statistics are
read. Timing never changes an outcome.
-/

namespace KeepApart

/-- A number, where truth values count as one and zero. -/
def Json.IsNumeric : Json → Prop
  | .int _ | .bool _ | .float _ => True
  | _ => False

namespace Monitoring

/-! ## Activities -/

structure Policy.IsNumeric (p : Policy) : Prop where
  slow : p.slow.IsNumeric
  warning : p.warning.IsNumeric

/-- What goes on while calls are timed. A call takes a given time and encloses an activity. When an
activity fails, what would come next is left out, up to a recovery. -/
inductive Activity where
  | idle
  | fail (f : Fault)
  | next (a b : Activity)
  | recover (a b : Activity)
  | timed (operation : String) (d : Duration) (body : Activity)
  | configure (p : Policy) (numeric : p.IsNumeric)
  | reset
  | read

inductive Event where
  | ended (operation : String) (d : Duration) (failed : Bool)
  | configured (p : Policy)
  | reset
  | read

/-- A monitor, and the statistics as they were whenever they were read. -/
structure Watch where
  monitor : Monitor := {}
  seen : List StatsTable := []

namespace Activity

def run (w : Watch) : Activity → Except Fault Unit × Watch
  | idle => (.ok (), w)
  | fail f => (.error f, w)
  | next a b =>
    match a.run w with
    | (.ok (), w) => b.run w
    | (.error f, w) => (.error f, w)
  | recover a b =>
    match a.run w with
    | (.ok (), w) => (.ok (), w)
    | (.error _, w) => b.run w
  | timed operation d body =>
    let (outcome, w) := body.run w
    let (outcome, m) := w.monitor.timed operation d outcome
    (outcome, { w with monitor := m })
  | configure p _ => (.ok (), { w with monitor := w.monitor.configure p })
  | reset => (.ok (), { w with monitor := w.monitor.reset })
  | read => (.ok (), { w with seen := w.seen ++ [w.monitor.stats] })

/-- How the activity ends by itself, when nothing is timed. -/
def outcome : Activity → Except Fault Unit
  | idle | configure _ _ | reset | read => .ok ()
  | fail f => .error f
  | next a b =>
    match a.outcome with
    | .ok () => b.outcome
    | .error f => .error f
  | recover a b =>
    match a.outcome with
    | .ok () => .ok ()
    | .error _ => b.outcome
  | timed _ _ body => body.outcome

def events : Activity → List Event
  | idle | fail _ => []
  | next a b =>
    match a.outcome with
    | .ok () => a.events ++ b.events
    | .error _ => a.events
  | recover a b =>
    match a.outcome with
    | .ok () => a.events
    | .error _ => a.events ++ b.events
  | timed operation d body =>
    body.events ++ [.ended operation d (Monitor.isFailure body.outcome)]
  | configure p _ => [.configured p]
  | reset => [.reset]
  | read => [.read]

end Activity

/-! ## Calls that have ended -/

namespace Event

def isReset : Event → Bool
  | reset => true
  | _ => false

def isRead : Event → Bool
  | read => true
  | _ => false

def policy? : Event → Option Policy
  | configured p => some p
  | _ => none

end Event

def policyAfter (es : List Event) : Policy :=
  ((es.filterMap Event.policy?).getLast?).getD {}

/-- A call that has ended, with the limit for slow calls that was then in force. -/
structure EndedCall where
  operation : String
  duration : Duration
  failed : Bool
  limit : Json

def EndedCall.isSlow (c : EndedCall) : Bool :=
  exceeds? c.duration.millis c.limit == some true

def EndedCall.of? (before : List Event) : Event → Option EndedCall
  | .ended operation d failed => some ⟨operation, d, failed, (policyAfter before).slow⟩
  | _ => none

def endedCalls (before : List Event) : List Event → List EndedCall
  | [] => []
  | e :: es => (EndedCall.of? before e).toList ++ endedCalls (before ++ [e]) es

def callsSinceReset (es : List Event) : List EndedCall :=
  endedCalls (es.rdropWhile fun e => !e.isReset) (es.rtakeWhile fun e => !e.isReset)

def callsAtReadings (es : List Event) : List (List EndedCall) :=
  (es.inits.filter fun before => before.getLast?.any Event.isRead).map callsSinceReset

variable {es : List Event} {e : Event}

theorem policyAfter_concat (es : List Event) (e : Event) :
    policyAfter (es ++ [e]) = e.policy?.getD (policyAfter es) := by
  cases h : e.policy? with
  | none => simp [policyAfter, h]
  | some p => simp [policyAfter, h]

theorem endedCalls_concat (before es : List Event) (e : Event) :
    endedCalls before (es ++ [e]) =
      endedCalls before es ++ (EndedCall.of? (before ++ es) e).toList := by
  induction es generalizing before with
  | nil => simp [endedCalls]
  | cons first es ih => simp [endedCalls, ih]

theorem callsSinceReset_concat (h : e.isReset = false) :
    callsSinceReset (es ++ [e]) = callsSinceReset es ++ (EndedCall.of? es e).toList := by
  have hkeep : (!e.isReset) = true := by rw [h]; rfl
  rw [callsSinceReset, List.rdropWhile_concat, List.rtakeWhile_concat, if_pos hkeep, if_pos hkeep,
    endedCalls_concat, List.rdropWhile_append_rtakeWhile]
  rfl

theorem callsAtReadings_concat (h : e.isRead = false) :
    callsAtReadings (es ++ [e]) = callsAtReadings es := by
  simp [callsAtReadings, List.inits_append, h]

theorem callsAtReadings_read :
    callsAtReadings (es ++ [.read]) = callsAtReadings es ++ [callsSinceReset es] := by
  have hsame : callsSinceReset (es ++ [.read]) = callsSinceReset es ++ [] := callsSinceReset_concat rfl
  simp [callsAtReadings, List.inits_append, hsame, Event.isRead]

theorem callsSinceReset_reset : callsSinceReset (es ++ [.reset]) = [] := by
  rw [callsSinceReset, List.rdropWhile_concat, List.rtakeWhile_concat]
  rfl

/-! ## Statistics of one operation -/

structure CallStats.Tallies (s : CallStats) (calls : List EndedCall) : Prop where
  count : s.count = calls.length
  errors : s.errors = calls.countP (·.failed)
  slowCalls : s.slowCalls = calls.countP (·.isSlow)
  longest : IsGreatest {x | x ∈ (0 : Rat) :: calls.map (·.duration.millis)} s.maxMillis

namespace CallStats

variable {s : CallStats} {calls : List EndedCall}

theorem tallies_nil : ({} : CallStats).Tallies [] := by
  refine ⟨rfl, rfl, rfl, List.mem_cons_self, ?_⟩
  intro x hx
  obtain rfl := List.mem_singleton.1 hx
  exact le_refl _

theorem Tallies.record (h : s.Tallies calls) (c : EndedCall) :
    (s.record c.duration.millis c.failed c.isSlow).Tallies (calls ++ [c]) := by
  refine ⟨?_, ?_, ?_, ?_⟩
  · simp [CallStats.record, h.count]
  · rw [List.countP_append, ← h.errors, List.countP_singleton]
    cases c.failed <;> rfl
  · rw [List.countP_append, ← h.slowCalls, List.countP_singleton]
    cases c.isSlow <;> rfl
  · have hset : {x | x ∈ (0 : Rat) :: (calls ++ [c]).map (·.duration.millis)} =
        insert c.duration.millis {x | x ∈ (0 : Rat) :: calls.map (·.duration.millis)} := by
      ext x
      change x ∈ (0 : Rat) :: (calls ++ [c]).map (·.duration.millis) ↔
        x = c.duration.millis ∨ x ∈ (0 : Rat) :: calls.map (·.duration.millis)
      rw [List.map_append, ← List.cons_append, List.mem_append, List.map_singleton,
        List.mem_singleton, or_comm]
    have hmax : (s.record c.duration.millis c.failed c.isSlow).maxMillis =
        max c.duration.millis s.maxMillis := by
      rw [max_comm]
      exact (max_def _ _).symm
    rw [hset, hmax]
    exact h.longest.insert _

end CallStats

/-! ## Statistics of all operations -/

namespace StatsTable

theorem eraseDups_concat (names : List String) (name : String) :
    (names ++ [name]).eraseDups =
      if name ∈ names then names.eraseDups else names.eraseDups ++ [name] := by
  rw [List.eraseDups_append]
  split
  · rename_i hknown
    simp [List.removeAll, hknown]
  · rename_i hnew
    simp [List.removeAll, hnew, List.eraseDups_cons]

/-- Each operation that was called is listed, in the order of first calls, with the statistics of its
calls. -/
structure Tallies (table : StatsTable) (calls : List EndedCall) : Prop where
  operations : table.map Prod.fst = (calls.map (·.operation)).eraseDups
  stats : ∀ entry ∈ table, entry.2.Tallies (calls.filter (·.operation == entry.1))

variable {table : StatsTable} {calls : List EndedCall} {operation : String}
  {change : CallStats → CallStats}

theorem tallies_nil : Tallies [] [] := ⟨rfl, List.forall_mem_nil _⟩

theorem operations_update (operation : String) (change : CallStats → CallStats)
    (table : StatsTable) : (update operation change table).map Prod.fst =
      if operation ∈ table.map Prod.fst then table.map Prod.fst
      else table.map Prod.fst ++ [operation] := by
  induction table with
  | nil => rfl
  | cons s rest ih =>
      by_cases h : s.1 = operation
      · simp [update, h]
      · have h' : operation ≠ s.1 := Ne.symm h
        simp only [update, beq_iff_eq, h, if_false, List.map_cons, ih, List.mem_cons, h', false_or]
        split <;> rfl

theorem mem_update (hnodup : (table.map Prod.fst).Nodup) {entry : String × CallStats}
    (hentry : entry ∈ update operation change table) :
    entry ∈ table ∧ entry.1 ≠ operation ∨
      entry = (operation, change ((table.get? operation).getD {})) := by
  induction table with
  | nil => exact .inr (List.mem_singleton.1 hentry)
  | cons s rest ih =>
      rw [List.map_cons, List.nodup_cons] at hnodup
      rw [get?_cons]
      by_cases h : s.1 = operation
      · simp only [update, beq_iff_eq, h, if_true, List.mem_cons] at hentry ⊢
        rcases hentry with rfl | hrest
        · exact .inr rfl
        · refine .inl ⟨.inr hrest, ?_⟩
          rintro rfl
          exact hnodup.1 (h ▸ List.mem_map_of_mem hrest)
      · simp only [update, beq_iff_eq, h, if_false, List.mem_cons] at hentry ⊢
        rcases hentry with rfl | hrest
        · exact .inl ⟨.inl rfl, h⟩
        · exact (ih hnodup.2 hrest).imp_left fun hold => ⟨.inr hold.1, hold.2⟩

theorem Tallies.nodup (h : table.Tallies calls) : (table.map Prod.fst).Nodup := by
  rw [h.operations]
  exact nodup_eraseDups _

/-- An operation that is not listed has the statistics of no calls. -/
theorem Tallies.get? (h : table.Tallies calls) (operation : String) :
    ((table.get? operation).getD {}).Tallies (calls.filter (·.operation == operation)) := by
  cases hget : table.get? operation with
  | some s =>
      obtain ⟨entry, hfind, rfl⟩ := Option.map_eq_some_iff.1 hget
      have hname : entry.1 = operation := by simpa using List.find?_some hfind
      rw [← hname]
      exact h.stats entry (List.mem_of_find?_eq_some hfind)
  | none =>
      have hnone : calls.filter (·.operation == operation) = [] := by
        rw [List.filter_eq_nil_iff]
        intro c hc hname
        have hlisted : c.operation ∈ table.map Prod.fst := by
          rw [h.operations, List.mem_eraseDups]
          exact List.mem_map_of_mem hc
        obtain ⟨entry, hentry, hfst⟩ := List.mem_map.1 hlisted
        have hno := List.find?_eq_none.1 (Option.map_eq_none_iff.1 hget) entry hentry
        exact hno (by rw [hfst]; exact hname)
      rw [hnone]
      exact CallStats.tallies_nil

theorem Tallies.update (h : table.Tallies calls) (c : EndedCall) :
    Tallies (update c.operation (·.record c.duration.millis c.failed c.isSlow) table)
      (calls ++ [c]) := by
  constructor
  · simp only [operations_update, h.operations, List.mem_eraseDups, List.map_append,
      List.map_singleton, eraseDups_concat]
  · intro entry hentry
    rcases mem_update h.nodup hentry with ⟨hold, hother⟩ | rfl
    · have hnot : (c.operation == entry.1) = false := beq_eq_false_iff_ne.2 (Ne.symm hother)
      rw [List.filter_append, List.filter_singleton, hnot]
      rw [cond_false, List.append_nil]
      exact h.stats entry hold
    · rw [List.filter_append, List.filter_singleton, beq_self_eq_true, cond_true]
      exact (h.get? c.operation).record c

end StatsTable

/-! ## Runs -/

theorem exists_exceeds? {limit : Json} (h : limit.IsNumeric) (millis : Rat) :
    ∃ b, exceeds? millis limit = some b := by
  cases limit with
  | int n => exact ⟨_, rfl⟩
  | bool b => exact ⟨_, rfl⟩
  | float x =>
      unfold exceeds?
      dsimp only
      split
      · exact ⟨_, rfl⟩
      · exact ⟨_, rfl⟩
  | null | str | surrogates | arr | obj => cases h

theorem exists_callLine? {p : Policy} (hp : p.IsNumeric) (operation : String) (d : Duration)
    (failed slow : Bool) : ∃ line, Monitor.callLine? p operation d failed slow = .ok line := by
  obtain ⟨long, hlong⟩ := exists_exceeds? hp.warning d.millis
  unfold Monitor.callLine?
  rw [hlong]
  dsimp only
  split
  · exact ⟨_, rfl⟩
  · split
    · exact ⟨_, rfl⟩
    · split
      · exact ⟨_, rfl⟩
      · exact ⟨_, rfl⟩

/-- Under numeric limits a call is counted and its outcome passed on. -/
theorem Monitor.timed_of_isNumeric {m : Monitor} (hm : m.policy.IsNumeric) (operation : String)
    (d : Duration) (outcome : Except Fault Unit) :
    ∃ n : Monitor, m.timed operation d outcome = (outcome, n) ∧ n.policy = m.policy ∧
      n.stats = StatsTable.update operation
        (·.record d.millis (isFailure outcome) (exceeds? d.millis m.policy.slow == some true))
        m.stats := by
  obtain ⟨slow, hslow⟩ := exists_exceeds? hm.slow d.millis
  obtain ⟨line, hline⟩ := exists_callLine? hm operation d (isFailure outcome) slow
  have hcounted : (some slow == some true) = slow := by cases slow <;> rfl
  rw [hslow, hcounted]
  simp only [timed, observe, hslow, hline]
  exact ⟨_, rfl, rfl, rfl⟩

structure Watch.Follows (w : Watch) (es : List Event) : Prop where
  policy : w.monitor.policy = policyAfter es
  numeric : w.monitor.policy.IsNumeric
  stats : w.monitor.stats.Tallies (callsSinceReset es)
  seen : List.Forall₂ StatsTable.Tallies w.seen (callsAtReadings es)

namespace Watch

variable {w : Watch} {es : List Event}

theorem follows_start : Follows {} [] :=
  ⟨rfl, ⟨trivial, trivial⟩, StatsTable.tallies_nil, .nil⟩

theorem Follows.timed (hw : w.Follows es) (operation : String) (d : Duration)
    (outcome : Except Fault Unit) :
    ∃ m : Monitor, w.monitor.timed operation d outcome = (outcome, m) ∧
      { w with monitor := m }.Follows
        (es ++ [Event.ended operation d (Monitor.isFailure outcome)]) := by
  obtain ⟨m, htimed, hpolicy, hstats⟩ :=
    Monitor.timed_of_isNumeric hw.numeric operation d outcome
  refine ⟨m, htimed, ?_, hpolicy ▸ hw.numeric, ?_, ?_⟩
  · rw [policyAfter_concat, hpolicy]
    exact hw.policy
  · let call : EndedCall := ⟨operation, d, Monitor.isFailure outcome, (policyAfter es).slow⟩
    rw [callsSinceReset_concat rfl, hstats, hw.policy]
    exact hw.stats.update call
  · rw [callsAtReadings_concat rfl]
    exact hw.seen

theorem Follows.configure (hw : w.Follows es) {p : Policy} (hp : p.IsNumeric) :
    { w with monitor := w.monitor.configure p }.Follows (es ++ [Event.configured p]) := by
  refine ⟨?_, hp, ?_, ?_⟩
  · rw [policyAfter_concat]
    rfl
  · rw [callsSinceReset_concat rfl]
    exact (List.append_nil _).symm ▸ hw.stats
  · rw [callsAtReadings_concat rfl]
    exact hw.seen

theorem Follows.reset (hw : w.Follows es) :
    { w with monitor := w.monitor.reset }.Follows (es ++ [Event.reset]) := by
  refine ⟨?_, hw.numeric, ?_, ?_⟩
  · rw [policyAfter_concat]
    exact hw.policy
  · rw [callsSinceReset_reset]
    exact StatsTable.tallies_nil
  · rw [callsAtReadings_concat rfl]
    exact hw.seen

theorem Follows.read (hw : w.Follows es) :
    { w with seen := w.seen ++ [w.monitor.stats] }.Follows (es ++ [Event.read]) := by
  refine ⟨?_, hw.numeric, ?_, ?_⟩
  · rw [policyAfter_concat]
    exact hw.policy
  · rw [callsSinceReset_concat rfl]
    exact (List.append_nil _).symm ▸ hw.stats
  · rw [callsAtReadings_read]
    exact List.rel_append hw.seen (.cons hw.stats .nil)

/-- A run ends as the activity does by itself, and the watch has followed its events. -/
theorem Follows.run (hw : w.Follows es) (a : Activity) :
    ∃ v : Watch, a.run w = (a.outcome, v) ∧ v.Follows (es ++ a.events) := by
  induction a generalizing w es with
  | idle => exact ⟨w, rfl, by rwa [Activity.events, List.append_nil]⟩
  | fail f => exact ⟨w, rfl, by rwa [Activity.events, List.append_nil]⟩
  | next a b iha ihb =>
      obtain ⟨v, hrun, hv⟩ := iha hw
      rw [Activity.run, Activity.outcome, Activity.events, hrun]
      cases a.outcome with
      | ok =>
          obtain ⟨u, hrun', hu⟩ := ihb hv
          exact ⟨u, hrun', by rwa [← List.append_assoc]⟩
      | error f => exact ⟨v, rfl, hv⟩
  | recover a b iha ihb =>
      obtain ⟨v, hrun, hv⟩ := iha hw
      rw [Activity.run, Activity.outcome, Activity.events, hrun]
      cases a.outcome with
      | ok => exact ⟨v, rfl, hv⟩
      | error f =>
          obtain ⟨u, hrun', hu⟩ := ihb hv
          exact ⟨u, hrun', by rwa [← List.append_assoc]⟩
  | timed operation d body ih =>
      obtain ⟨v, hrun, hv⟩ := ih hw
      obtain ⟨m, htimed, hm⟩ := hv.timed operation d body.outcome
      refine ⟨{ v with monitor := m }, ?_, ?_⟩
      · simp only [Activity.run, Activity.outcome, hrun, htimed]
      · rw [Activity.events, ← List.append_assoc]
        exact hm
  | configure p hp => exact ⟨_, rfl, hw.configure hp⟩
  | reset => exact ⟨_, rfl, hw.reset⟩
  | read => exact ⟨_, rfl, hw.read⟩

end Watch

theorem StatsTable.Tallies.le_count {table : StatsTable} {calls : List EndedCall}
    (h : table.Tallies calls) (entry : String × CallStats) (hentry : entry ∈ table) :
    entry.2.errors ≤ entry.2.count ∧ entry.2.slowCalls ≤ entry.2.count := by
  have hstats := h.stats entry hentry
  rw [hstats.count, hstats.errors, hstats.slowCalls]
  exact ⟨List.countP_le_length, List.countP_le_length⟩

/-- An activity whose calls are timed ends as it does by itself. Each time the statistics are read, and in
the end, they are those of the calls that have ended since the last reset. So no operation has more
failures or more slow calls than calls. -/
theorem statistics_of_ended_calls (a : Activity) :
    ∃ w : Watch, a.run {} = (a.outcome, w) ∧
      List.Forall₂ StatsTable.Tallies w.seen (callsAtReadings a.events) ∧
      w.monitor.stats.Tallies (callsSinceReset a.events) ∧
      ∀ table ∈ w.monitor.stats :: w.seen, ∀ entry ∈ table,
        entry.2.errors ≤ entry.2.count ∧ entry.2.slowCalls ≤ entry.2.count := by
  obtain ⟨w, hrun, hw⟩ := Watch.follows_start.run a
  have hseen := (List.forall₂_and_left _ _).1 (hw.seen.imp fun _ _ h => ⟨h.le_count, h⟩)
  exact ⟨w, hrun, hw.seen, hw.stats, List.forall_mem_cons.2 ⟨hw.stats.le_count, hseen.1⟩⟩

/-- The reset forgets the call that has failed; the other one ends later, under the new limit. -/
example :
    let policy : Policy := { slow := .int 1500, warning := .int 0 }
    let inner : Activity := .recover (.timed "find" ⟨1, false⟩ (.fail .noStorage)) .read
    let a : Activity :=
      .timed "save" ⟨2, false⟩ (.next inner (.next (.configure policy ⟨trivial, trivial⟩) .reset))
    (a.run {}).2.seen = [[("find", ⟨1, 1000, 1000, 1, 0⟩)]] ∧
      (a.run {}).2.monitor.stats = [("save", ⟨1, 2000, 2000, 0, 1⟩)] := by decide +kernel

end Monitoring

end KeepApart
