/-!
# Dates and moments

A date is the number of days since 1 January of the year 1, a moment the number of microseconds since
the midnight that starts it. Order and difference are those of the numbers; the calendar shows only in
reading and writing.
-/

namespace KeepApart

/-- A day of the proleptic Gregorian calendar, counted from 0001-01-01. -/
structure Date where
  days : Int
  deriving DecidableEq, Repr

/-- A moment without a zone, in microseconds since 0001-01-01T00:00:00. -/
structure Moment where
  micros : Int
  deriving DecidableEq, Repr

namespace Date

instance : LE Date := ⟨fun a b => a.days ≤ b.days⟩
instance : LT Date := ⟨fun a b => a.days < b.days⟩
instance (a b : Date) : Decidable (a ≤ b) := inferInstanceAs (Decidable (a.days ≤ b.days))
instance (a b : Date) : Decidable (a < b) := inferInstanceAs (Decidable (a.days < b.days))

def isLeap (year : Nat) : Bool :=
  year % 4 == 0 && (year % 100 != 0 || year % 400 == 0)

def monthLengths (year : Nat) : List Nat :=
  [31, if isLeap year then 29 else 28, 31, 30, 31, 30, 31, 31, 30, 31, 30, 31]

def daysInMonth (year month : Nat) : Nat :=
  ((monthLengths year)[month - 1]?).getD 0

def daysBeforeYear (year : Nat) : Int :=
  let y : Int := (year : Int) - 1
  y * 365 + y / 4 - y / 100 + y / 400

def daysBeforeMonth (year month : Nat) : Nat :=
  ((monthLengths year).take (month - 1)).foldl (· + ·) 0

/-- The day with these numbers; none when there is no such day in the years 1 to 9999. -/
def ofNumbers? (year month day : Nat) : Option Date :=
  if 1 ≤ year ∧ year ≤ 9999 ∧ 1 ≤ month ∧ month ≤ 12 ∧ 1 ≤ day ∧ day ≤ daysInMonth year month then
    some ⟨daysBeforeYear year + daysBeforeMonth year month + (day - 1)⟩
  else none

/-- The year of a day: the last one that does not start after it. -/
def year (d : Date) : Nat :=
  let guess := (d.days * 400 / 146097).toNat + 1
  if daysBeforeYear (guess + 1) ≤ d.days then guess + 1
  else if daysBeforeYear guess ≤ d.days then guess
  else guess - 1

/-- Splits the days since the start of a year into month and day, both counted from one. -/
def splitMonth (month : Nat) (rest : Nat) : List Nat → Nat × Nat
  | [] => (month, rest + 1)
  | n :: ns => if rest < n then (month, rest + 1) else splitMonth (month + 1) (rest - n) ns

def monthDay (d : Date) : Nat × Nat :=
  splitMonth 1 (d.days - daysBeforeYear d.year).toNat (monthLengths d.year)

/-- The day of the week, 1 for Monday to 7 for Sunday. -/
def weekday (d : Date) : Nat :=
  (d.days % 7).toNat + 1

def padded (width n : Nat) : String :=
  String.ofList ((Nat.toDigits 10 n).leftpad width '0')

def iso (d : Date) : String :=
  let (month, day) := d.monthDay
  padded 4 d.year ++ "-" ++ padded 2 month ++ "-" ++ padded 2 day

def notAfter (value : Option Date) (today : Date) : Date :=
  match value with
  | none => today
  | some d => if today < d then today else d

end Date

namespace Moment

instance : LE Moment := ⟨fun a b => a.micros ≤ b.micros⟩
instance : LT Moment := ⟨fun a b => a.micros < b.micros⟩
instance (a b : Moment) : Decidable (a ≤ b) := inferInstanceAs (Decidable (a.micros ≤ b.micros))
instance (a b : Moment) : Decidable (a < b) := inferInstanceAs (Decidable (a.micros < b.micros))

def microsPerSecond : Int := 1000000

def microsPerDay : Int := 86400 * microsPerSecond

def earliest : Moment := ⟨0⟩

/-- The moment after the last one that can be written, the end of the year 9999. -/
def limit : Moment := ⟨3652059 * microsPerDay⟩

def ofDate (d : Date) : Moment := ⟨d.days * microsPerDay⟩

def date (t : Moment) : Date := ⟨t.micros / microsPerDay⟩

def timeOfDay (t : Moment) : Nat := (t.micros % microsPerDay).toNat

/-- Date and time with a `T` between them; microseconds only when there are any. -/
def iso (t : Moment) : String :=
  let seconds := t.timeOfDay / 1000000
  let micro := t.timeOfDay % 1000000
  let time := Date.padded 2 (seconds / 3600) ++ ":" ++ Date.padded 2 (seconds / 60 % 60) ++ ":"
    ++ Date.padded 2 (seconds % 60)
  t.date.iso ++ "T" ++ time ++ (if micro == 0 then "" else "." ++ Date.padded 6 micro)

end Moment

end KeepApart
