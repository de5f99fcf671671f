import KeepApart.Monitoring

/-!
# Exported metrics

Three metrics are exported: a histogram of durations and a counter of calls, both by operation and
status, and a counter of slow calls by operation. They exist from the first call on that they count.
-/

namespace KeepApart.Monitoring

/-- One exported number. Labels are in alphabetical order. -/
structure Sample where
  name : String
  labels : List (String × String)
  value : Rat
  deriving DecidableEq, Repr

def Sample.key (s : Sample) : String :=
  s.name ++ "\x7b" ++ ",".intercalate (s.labels.map fun l => l.1 ++ "=" ++ l.2) ++ "\x7d"

namespace Metrics

def durationName : String := "non_associations_db_query_duration_seconds"

def callsName : String := "non_associations_db_query_total"

def slowName : String := "non_associations_db_slow_queries_total"

/-- The upper bounds of the buckets in seconds, as written and as numbers; the last bucket has none. -/
def bounds : List (String × Option Rat) :=
  [("0.005", some (5 / 1000)), ("0.01", some (1 / 100)), ("0.025", some (25 / 1000)),
   ("0.05", some (5 / 100)), ("0.1", some (1 / 10)), ("0.25", some (1 / 4)), ("0.5", some (1 / 2)),
   ("1.0", some 1), ("2.5", some (5 / 2)), ("5.0", some 5), ("10.0", some 10), ("+Inf", none)]

def isWithin (bound : Option Rat) (seconds : Rat) : Bool :=
  bound.all fun b => seconds ≤ Decimal.round53 b

def status (failed : Bool) : String :=
  if failed then "error" else "success"

def sum (calls : List Call) : Rat :=
  calls.foldl (fun total c => Decimal.round53 (total + c.seconds)) 0

def seriesSamples (operation : String) (failed : Bool) (calls : List Call) : List Sample :=
  let labels := [("operation", operation), ("status", status failed)]
  let buckets := bounds.map fun b =>
    (⟨durationName ++ "_bucket", ("le", b.1) :: labels,
      (calls.filter fun c => isWithin b.2 c.seconds).length⟩ : Sample)
  buckets ++
    [⟨durationName ++ "_count", labels, calls.length⟩,
     ⟨durationName ++ "_sum", labels, sum calls⟩,
     ⟨callsName, labels, calls.length⟩]

def samples (calls : List Call) : List Sample :=
  let series := (calls.map fun c => (c.operation, c.failed)).eraseDups
  let slow := calls.filter (·.slow)
  let slowOperations := (slow.map (·.operation)).eraseDups
  (series.flatMap fun (operation, failed) =>
    seriesSamples operation failed
      (calls.filter fun c => c.operation == operation && c.failed == failed))
  ++ slowOperations.map fun operation =>
    ⟨slowName, [("operation", operation)], (slow.filter (·.operation == operation)).length⟩

end Metrics

end KeepApart.Monitoring
