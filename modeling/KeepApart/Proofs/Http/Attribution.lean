import Mathlib.Data.List.Induction
import KeepApart.Http.Server

/-!
# Which request an event is attributed to

One log serves all requests. Each of them begins its mark, writes events down and clears the mark, but
while it waits other requests go on, and they begin and clear the one mark of the log as well. In any
interleaving an event carries the mark of the request that was begun last, or none when some request has
ended since; its own mark is sure only if no other request began or ended since it began.
-/

namespace KeepApart

namespace SecurityLog

inductive Notice where
  | invalidInput (field errorCode : String) (input : Json) (source : String)
      (context : List (String × Json))
  | badKey (source : String) (missing : Bool)
  | noActor (source : String)

def note (log : SecurityLog) (time : String) : Notice → SecurityLog
  | .invalidInput field errorCode input source context =>
    log.invalidInput time field errorCode input source context
  | .badKey source missing => log.badKey time source missing
  | .noActor source => log.noActor time source

inductive LogStep where
  | begin (drawn : String) (id : Option String) (user address : String)
  | note (time : String) (n : Notice)
  | clear

namespace LogStep

def apply (log : SecurityLog) : LogStep → SecurityLog
  | begin drawn id user address => log.begin drawn id user address
  | note time n => log.note time n
  | clear => log.clear

def isBegin : LogStep → Bool
  | begin .. => true
  | _ => false

def isNote : LogStep → Bool
  | note .. => true
  | _ => false

end LogStep

end SecurityLog

open SecurityLog

structure LoggedRequest where
  drawn : String
  id : Option String
  user : String
  address : String
  notices : List (String × Notice)

namespace LoggedRequest

def begin (q : LoggedRequest) : LogStep := .begin q.drawn q.id q.user q.address

def steps (q : LoggedRequest) : List LogStep :=
  q.begin :: q.notices.map (fun n => .note n.1 n.2) ++ [.clear]

/-- The id that the request brings, or else the one drawn for it, its user on one line and its
address. -/
def mark (q : LoggedRequest) : RequestMark where
  id := match q.id with
    | some s => if s.isEmpty then q.drawn else s
    | none => q.drawn
  user := Text.sanitize Security.userWidth q.user
  address := q.address

end LoggedRequest

def SecurityEvent.mark (e : SecurityEvent) : RequestMark := ⟨e.requestId, e.user, e.address⟩

/-! ## Interleavings -/

/-- The steps of requests on the one log, each with its request. -/
abbrev Trace (ι : Type) := List (ι × LogStep)

namespace Trace

variable {ι : Type} {requests : ι → LoggedRequest} {trace : Trace ι} {i j : ι}

def log (trace : Trace ι) : SecurityLog :=
  trace.foldl (fun log p => p.2.apply log) {}

/-- The request that was begun last, if none has ended since. -/
def current (trace : Trace ι) : Option ι :=
  trace.foldl (fun j p => match p.2 with
    | .begin .. => some p.1
    | .note .. => j
    | .clear => none) none

/-- The request began, and from then on no other request began or ended. -/
def Undisturbed (i : ι) (trace : Trace ι) : Prop :=
  ∃ earlier since b, trace = earlier ++ (i, b) :: since ∧ b.isBegin = true ∧
    ∀ p ∈ since, p.1 ≠ i → p.2.isNote = true

section Own

variable [DecidableEq ι]

def own (i : ι) (trace : Trace ι) : List LogStep :=
  (trace.filter fun p => p.1 = i).map Prod.snd

/-- Every request has done the first of its steps in their order. -/
def IsInterleaving (requests : ι → LoggedRequest) (trace : Trace ι) : Prop :=
  ∀ i, own i trace <+: (requests i).steps

theorem own_append (t u : Trace ι) : own i (t ++ u) = own i t ++ own i u := by
  rw [own, List.filter_append, List.map_append, own, own]

theorem own_cons_self (s : LogStep) (t : Trace ι) : own i ((i, s) :: t) = s :: own i t := by
  simp [own]

theorem mem_own {s : LogStep} (h : (i, s) ∈ trace) : s ∈ own i trace :=
  List.mem_map.2 ⟨(i, s), List.mem_filter.2 ⟨h, by simp⟩, rfl⟩

theorem IsInterleaving.left {u : Trace ι} (h : IsInterleaving requests (trace ++ u)) :
    IsInterleaving requests trace := by
  intro i
  have hinitial : own i trace <+: own i (trace ++ u) := by
    rw [own_append]
    exact List.prefix_append _ _
  exact hinitial.trans (h i)

theorem IsInterleaving.mem_steps (h : IsInterleaving requests trace) {s : LogStep}
    (hs : (i, s) ∈ trace) : s ∈ (requests i).steps :=
  (h i).subset (mem_own hs)

end Own

/-! ## The mark of the log -/

theorem log_concat (trace : Trace ι) (p : ι × LogStep) : log (trace ++ [p]) = p.2.apply (log trace) := by
  rw [log, List.foldl_append]
  rfl

theorem current_concat (trace : Trace ι) (p : ι × LogStep) :
    current (trace ++ [p]) = match p.2 with
      | .begin .. => some p.1
      | .note .. => current trace
      | .clear => none := by
  rw [current, List.foldl_append]
  rfl

/-- An event is written under the mark of the log, which stays. -/
theorem exists_note (log : SecurityLog) (time : String) (n : Notice) :
    ∃ e, log.note time n = { log with events := log.events ++ [e] } ∧ e.mark = log.mark := by
  cases n with
  | invalidInput _ _ _ _ _ => exact ⟨_, rfl, rfl⟩
  | badKey _ missing => cases missing <;> exact ⟨_, rfl, rfl⟩
  | noActor _ => exact ⟨_, rfl, rfl⟩

theorem begin_eq_of_mem {q : LoggedRequest} {drawn user address : String} {id : Option String}
    (h : .begin drawn id user address ∈ q.steps) : LogStep.begin drawn id user address = q.begin := by
  simpa [LoggedRequest.steps] using h

/-- The log has the mark of the request that was begun last, if none has ended since. -/
theorem mark_log [DecidableEq ι] (h : IsInterleaving requests trace) :
    (log trace).mark = ((current trace).map fun j => (requests j).mark).getD {} := by
  induction trace using List.reverseRecOn with
  | nil => rfl
  | append_singleton trace p ih =>
      obtain ⟨i, s⟩ := p
      rw [log_concat, current_concat]
      cases s with
      | begin drawn id user address =>
          have hs := h.mem_steps (List.mem_append_right trace List.mem_cons_self)
          obtain ⟨rfl, rfl, rfl, rfl⟩ := LogStep.begin.inj (begin_eq_of_mem hs)
          rfl
      | note time n =>
          obtain ⟨e, hnote, -⟩ := exists_note (log trace) time n
          change ((log trace).note time n).mark = _
          rw [hnote]
          exact ih h.left
      | clear => rfl

/-! ## Requests that are disturbed -/

theorem current_append_notes (t : Trace ι) {u : Trace ι} (hu : ∀ p ∈ u, p.2.isNote = true) :
    current (t ++ u) = current t := by
  induction u using List.reverseRecOn with
  | nil => rw [List.append_nil]
  | append_singleton u p ih =>
      have hp : p.2.isNote = true := hu p (List.mem_append_right u List.mem_cons_self)
      rw [← List.append_assoc, current_concat]
      cases hs : p.2 with
      | note time n => exact ih fun p' hp' => hu p' (List.mem_append_left _ hp')
      | begin _ _ _ _ | clear =>
          rw [hs] at hp
          cases hp

theorem current_eq_some_iff : current trace = some i ↔ ∃ earlier since b,
    trace = earlier ++ (i, b) :: since ∧ b.isBegin = true ∧ ∀ p ∈ since, p.2.isNote = true := by
  constructor
  · intro h
    induction trace using List.reverseRecOn with
    | nil => cases h
    | append_singleton trace p ih =>
        obtain ⟨j, s⟩ := p
        rw [current_concat] at h
        cases s with
        | begin drawn id user address =>
            obtain rfl : j = i := Option.some.inj h
            exact ⟨trace, [], _, rfl, rfl, List.forall_mem_nil _⟩
        | note time n =>
            obtain ⟨earlier, since, b, rfl, hb, hsince⟩ := ih h
            refine ⟨earlier, since ++ [(j, .note time n)], b, by simp, hb, ?_⟩
            intro p hp
            rcases List.mem_append.1 hp with hp | hp
            · exact hsince p hp
            · rw [List.mem_singleton.1 hp]
              rfl
        | clear => cases h
  · rintro ⟨earlier, since, b, rfl, hb, hsince⟩
    rw [List.append_cons, current_append_notes _ hsince, current_concat]
    cases b with
    | begin _ _ _ _ => rfl
    | note _ _ | clear => cases hb

section Own

variable [DecidableEq ι] {time : String} {n : Notice}

/-- A request that is still to write something down has not ended. -/
theorem own_prefix_of_note (h : IsInterleaving requests (trace ++ [(i, .note time n)])) :
    own i trace <+: (requests i).begin :: (requests i).notices.map fun n => .note n.1 n.2 := by
  have hinitial := h i
  rw [own_append, own_cons_self, LoggedRequest.steps] at hinitial
  change own i trace ++ [LogStep.note time n] <+: _ ++ [LogStep.clear] at hinitial
  rcases List.prefix_concat_iff.1 hinitial with heq | hinitial
  · have hlast := (List.append_inj' heq rfl).2
    cases hlast
  · exact (List.prefix_append _ _).trans hinitial

/-- What the request itself does once it has begun is to write things down. -/
theorem isNote_of_own {earlier since : Trace ι} {b : LogStep}
    (h : IsInterleaving requests (earlier ++ (i, b) :: since ++ [(i, .note time n)]))
    (hb : b.isBegin = true) : ∀ p ∈ since, p.1 = i → p.2.isNote = true := by
  have hnote : ∀ s ∈ (requests i).notices.map (fun n => LogStep.note n.1 n.2), s.isNote = true := by
    intro s hs
    obtain ⟨_, -, rfl⟩ := List.mem_map.1 hs
    rfl
  have hinitial := own_prefix_of_note h
  rw [own_append, own_cons_self] at hinitial
  rintro ⟨j, s⟩ hs rfl
  cases hearlier : own j earlier with
  | nil =>
      rw [hearlier, List.nil_append, List.cons_prefix_cons] at hinitial
      exact hnote s (hinitial.2.subset (mem_own hs))
  | cons c rest =>
      -- The request would have begun twice.
      rw [hearlier, List.cons_append, List.cons_prefix_cons] at hinitial
      have hb' := hnote b (hinitial.2.subset (by simp))
      cases b <;> simp [LogStep.isBegin, LogStep.isNote] at hb hb'

theorem undisturbed_iff (h : IsInterleaving requests (trace ++ [(i, .note time n)])) :
    Undisturbed i trace ↔ current trace = some i := by
  rw [current_eq_some_iff]
  constructor
  · rintro ⟨earlier, since, b, rfl, hb, hothers⟩
    refine ⟨earlier, since, b, rfl, hb, ?_⟩
    intro p hp
    by_cases hown : p.1 = i
    · exact isNote_of_own h hb p hp hown
    · exact hothers p hp hown
  · rintro ⟨earlier, since, b, rfl, hb, hsince⟩
    exact ⟨earlier, since, b, rfl, hb, fun p hp _ => hsince p hp⟩

/-- A request that writes something down adds one event, which carries the mark of the request that was
begun last, or the empty one if a request has ended since. That is the request itself as long as no other
one has begun or ended since it began, and not otherwise. -/
theorem event_carries_last_mark (h : IsInterleaving requests (trace ++ [(i, .note time n)])) :
    ∃ e, (log (trace ++ [(i, .note time n)])).events = (log trace).events ++ [e] ∧
      e.mark = ((current trace).map fun j => (requests j).mark).getD {} ∧
      (Undisturbed i trace → e.mark = (requests i).mark) ∧
      (¬ Undisturbed i trace → current trace ≠ some i) := by
  obtain ⟨e, hnote, hmark⟩ := exists_note (log trace) time n
  rw [mark_log h.left] at hmark
  refine ⟨e, ?_, hmark, ?_, mt (undisturbed_iff h).2⟩
  · rw [log_concat]
    change ((log trace).note time n).events = _
    rw [hnote]
  · intro hundisturbed
    rw [hmark, (undisturbed_iff h).1 hundisturbed]
    rfl

end Own

/-! ## Two requests -/

def twoRequests (second : Bool) : LoggedRequest :=
  if second then ⟨"2", some "B", "", "10.0.0.2", [("", .noActor "/b")]⟩
  else ⟨"1", some "A", "", "10.0.0.1", [("", .noActor "/a")]⟩

/-- One that is on its own has its event attributed to it. -/
theorem event_carries_last_mark_alone :
    let trace : Trace Bool := [(false, (twoRequests false).begin)]
    let next : Bool × LogStep := (false, .note "" (.noActor "/a"))
    IsInterleaving twoRequests (trace ++ [next]) ∧ Undisturbed false trace ∧
      ∃ e, (log (trace ++ [next])).events = [e] ∧ e.mark = ⟨"A", "", "10.0.0.1"⟩ := by
  intro trace next
  have hinterleaving : IsInterleaving twoRequests (trace ++ [next]) := by
    intro i
    cases i
    · exact ⟨[.clear], rfl⟩
    · exact List.nil_prefix
  have hundisturbed : Undisturbed false trace :=
    ⟨[], [], (twoRequests false).begin, rfl, rfl, List.forall_mem_nil _⟩
  obtain ⟨e, hevents, -, hmark, -⟩ := event_carries_last_mark hinterleaving
  exact ⟨hinterleaving, hundisturbed, e, hevents, hmark hundisturbed⟩

/-- The second one begins before the first one has written down what it has to, and the first one ends
before the second one has. -/
theorem events_misattributed :
    let trace : Trace Bool :=
      [(false, (twoRequests false).begin), (true, (twoRequests true).begin),
        (false, .note "" (.noActor "/a")), (false, .clear),
        (true, .note "" (.noActor "/b")), (true, .clear)]
    (∀ i, own i trace = (twoRequests i).steps) ∧
      (trace.filter fun p => p.2.isNote).map (fun p => (twoRequests p.1).mark) =
        [⟨"A", "", "10.0.0.1"⟩, ⟨"B", "", "10.0.0.2"⟩] ∧
      (log trace).events.map SecurityEvent.mark = [⟨"B", "", "10.0.0.2"⟩, {}] := by
  refine ⟨?_, ?_, ?_⟩
  · intro i
    cases i <;> rfl
  · rfl
  · rfl

end Trace

/-! ## Requests that are served -/

theorem LoggedRequest.foldl_steps (q : LoggedRequest) (log : SecurityLog) :
    q.steps.foldl LogStep.apply log =
      (q.notices.foldl (fun log n => log.note n.1 n.2) (q.begin.apply log)).clear := by
  simp only [steps, List.foldl_append, List.foldl_cons, List.foldl_nil, List.foldl_map]
  rfl

namespace Http

theorem Refusal.exists_notices (r : Refusal) (path : String) (log : SecurityLog) :
    ∃ notices : List (String × Notice),
      r.record path log = notices.foldl (fun log n => log.note n.1 n.2) log := by
  cases r with
  | longActor => exact ⟨[], rfl⟩
  | missingKey => exact ⟨[("", .badKey "verify_api_key" true)], rfl⟩
  | wrongKey => exact ⟨[("", .badKey "verify_api_key" false)], rfl⟩
  | badContent trouble =>
      cases trouble with
      | badJson _ => exact ⟨[("", .invalidInput _ _ _ _ _)], rfl⟩
      | unreadable => exact ⟨[], rfl⟩
  | badForm issues => cases issues <;> exact ⟨[("", .invalidInput _ _ _ _ _)], rfl⟩

theorem exists_notices_recordFault (f : Fault) (path : String) (log : SecurityLog) :
    ∃ notices : List (String × Notice),
      recordFault f path log = notices.foldl (fun log n => log.note n.1 n.2) log := by
  unfold recordFault
  split
  · exact ⟨[("", .noActor _)], rfl⟩
  · exact ⟨[], rfl⟩

variable (s : Server) (around : Surroundings) (q : Request)

theorem Server.exists_notices_serve (requestId : String) (o : Operation) (state : ServiceState) :
    ∃ notices : List (String × Notice), (s.serve around q requestId o state).2.log =
      notices.foldl (fun log n => log.note n.1 n.2) state.log := by
  unfold serve
  split
  · rename_i refusal _
    exact refusal.exists_notices _ _
  · dsimp only
    split
    · exact ⟨[], rfl⟩
    · rename_i fault _
      exact exists_notices_recordFault fault _ _

/-- What a request that is served does to the log are the steps of a request. -/
theorem Server.exists_log_of_handle (state : ServiceState) : ∃ notices,
    (s.handle around q state).2.log =
      (LoggedRequest.mk around.drawnId (q.header? "X-Request-ID")
        ((q.header? "X-User-Name").getD "") around.address notices).steps.foldl LogStep.apply
          state.log := by
  have hrespond (requestId : String) (log : SecurityLog) :
      ∃ notices : List (String × Notice), (s.respond around q requestId { state with log }).2.log =
        notices.foldl (fun log n => log.note n.1 n.2) log := by
    unfold respond
    dsimp only
    split
    · exact ⟨[], rfl⟩
    · split
      · exact exists_notices_serve s around q requestId _ { state with log }
      all_goals exact ⟨[], rfl⟩
  obtain ⟨notices, hnotices⟩ := hrespond ((q.header? "X-Request-ID").getD around.drawnId)
    (state.log.begin around.drawnId (q.header? "X-Request-ID")
      ((q.header? "X-User-Name").getD "") around.address)
  refine ⟨notices, ?_⟩
  rw [LoggedRequest.foldl_steps]
  exact congrArg SecurityLog.clear hnotices

end Http

end KeepApart
