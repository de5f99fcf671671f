import KeepApart.Decimal.Fixed
import KeepApart.Json.Display
import KeepApart.Fault

/-!
# Monitoring

Every call of an operation is timed. For each operation the calls are counted, with those that failed
and those that were slow, and their durations are added up. Slow calls are logged, and so are calls that
are not slow yet longer than a second, lower threshold. Durations are exact numbers; `round53` stands
where a measured number is the result of an addition, a multiplication or a division.
-/

namespace KeepApart.Monitoring

/-- Is the duration above a limit? A limit that is no number cannot be compared with. -/
def exceeds? (millis : Rat) : (limit : Json) → Option Bool
  | .int n => some (n < millis)
  | .bool b => some (b.toNat < millis)
  | .float x =>
    match Decimal.ofFloat? x with
    | some limit => some (limit < millis)
    | none => some (x < 0)
  | _ => none

/-- What is measured and how it is reported: limits in milliseconds and switches, kept as they were
given. -/
structure Policy where
  slow : Json := .float 1000
  warning : Json := .float 500
  exportMetrics : Json := .bool true
  writeLog : Json := .bool true

/-- A measured duration. A zero may carry a minus sign, which shows when it is written. -/
structure Duration where
  seconds : Rat
  minusZero : Bool := false
  deriving DecidableEq, Repr

namespace Duration

def millis (d : Duration) : Rat :=
  Decimal.round53 (d.seconds * 1000)

def text (d : Duration) : String :=
  (if d.minusZero then "-" else "") ++ Decimal.fixed 2 d.millis ++ "ms"

end Duration

structure CallStats where
  count : Nat := 0
  totalMillis : Rat := 0
  maxMillis : Rat := 0
  errors : Nat := 0
  slowCalls : Nat := 0
  deriving DecidableEq, Repr

namespace CallStats

def record (s : CallStats) (millis : Rat) (failed slow : Bool) : CallStats where
  count := s.count + 1
  totalMillis := Decimal.round53 (s.totalMillis + millis)
  maxMillis := if s.maxMillis ≤ millis then millis else s.maxMillis
  errors := s.errors + failed.toNat
  slowCalls := s.slowCalls + slow.toNat

def meanMillis (s : CallStats) : Rat :=
  if s.count = 0 then 0
  else Decimal.roundPlaces 2 (Decimal.round53 (s.totalMillis / s.count))

def longestMillis (s : CallStats) : Rat :=
  Decimal.roundPlaces 2 s.maxMillis

end CallStats

/-- The statistics of each operation, in the order in which the operations were first called. -/
abbrev StatsTable := List (String × CallStats)

namespace StatsTable

def get? (table : StatsTable) (operation : String) : Option CallStats :=
  (List.find? (fun s => s.1 == operation) table).map Prod.snd

def update (operation : String) (change : CallStats → CallStats) : StatsTable → StatsTable
  | [] => [(operation, change {})]
  | s :: rest =>
    if s.1 == operation then (operation, change s.2) :: rest else s :: update operation change rest

theorem get?_cons (s : String × CallStats) (table : StatsTable) (operation : String) :
    get? (s :: table) operation = if s.1 = operation then some s.2 else table.get? operation := by
  by_cases h : s.1 = operation <;> simp [get?, h]

end StatsTable

structure Call where
  operation : String
  seconds : Rat
  failed : Bool
  slow : Bool
  deriving DecidableEq, Repr

inductive LogLevel where
  | info | warning | error
  deriving DecidableEq, Repr

def LogLevel.name : LogLevel → String
  | info => "INFO"
  | warning => "WARNING"
  | error => "ERROR"

/-- What is being measured: the policy in force, the statistics since the last reset, the calls since the
start that count towards exported metrics, and the log. -/
structure Monitor where
  policy : Policy := {}
  stats : StatsTable := []
  exported : List Call := []
  log : List (LogLevel × String) := []

namespace Monitor

def configure (m : Monitor) (p : Policy) : Monitor :=
  { m with policy := p }

/-- Forgets the statistics; exported metrics stay. -/
def reset (m : Monitor) : Monitor :=
  { m with stats := [] }

def callLine? (p : Policy) (operation : String) (d : Duration) (failed slow : Bool) :
    Except Fault (Option (LogLevel × String)) :=
  if p.writeLog.isNothing then .ok none
  else if slow then
    .ok (some (.warning, "SLOW QUERY: " ++ operation ++ " took " ++ d.text ++ " (threshold: "
      ++ p.slow.display ++ "ms)"))
  else
    match exceeds? d.millis p.warning with
    | none => .error .wrongType
    | some long =>
      if long && !failed then .ok (some (.info, "Query " ++ operation ++ " took " ++ d.text))
      else .ok none

/-- Counts a call that has ended. Where the limit for slow calls cannot be compared with, nothing is
counted; where that of the warning cannot, nothing is logged. -/
def observe (m : Monitor) (operation : String) (d : Duration) (failed : Bool) :
    Except Fault Unit × Monitor :=
  match exceeds? d.millis m.policy.slow with
  | none => (.error .wrongType, m)
  | some slow =>
    let counted :=
      { m with
        stats := StatsTable.update operation (·.record d.millis failed slow) m.stats
        exported :=
          if m.policy.exportMetrics.isNothing then m.exported
          else m.exported ++ [⟨operation, d.seconds, failed, slow⟩] }
    match callLine? m.policy operation d failed slow with
    | .error fault => (.error fault, counted)
    | .ok line => (.ok (), { counted with log := m.log ++ line.toList })

def isFailure {ε α : Type} : Except ε α → Bool
  | .ok _ => false
  | .error _ => true

/-- Times a call. Its outcome is passed on as it is, unless the timing itself goes wrong. -/
def timed {α : Type} (m : Monitor) (operation : String) (d : Duration) (outcome : Except Fault α) :
    Except Fault α × Monitor :=
  match m.observe operation d (isFailure outcome) with
  | (.ok (), m) => (outcome, m)
  | (.error fault, m) => (.error fault, m)

end Monitor

inductive Probe where
  | answered
  | refused (text : String)
  | crashed (text : String)
  deriving DecidableEq, Repr

structure Health where
  error : Option String
  latencyMillis : Rat
  deriving DecidableEq, Repr

namespace Health

def isHealthy (h : Health) : Bool := h.error.isNone

def latency (h : Health) : Rat :=
  Decimal.roundPlaces 2 h.latencyMillis

end Health

/-- Probes storage. A refusal is logged and makes it unhealthy; any other failure is passed on. -/
def Monitor.checkHealth (m : Monitor) (d : Duration) : Probe → Except Fault Health × Monitor
  | .answered => (.ok ⟨none, d.millis⟩, m)
  | .refused text =>
    (.ok ⟨some text, d.millis⟩,
      { m with log := m.log ++ [(.error, "Database health check failed: " ++ text)] })
  | .crashed text => (.error (.failure text), m)

end KeepApart.Monitoring
