import KeepApart.Yaml.Text
import KeepApart.Yaml.Value

/-!
# Dates and times in a settings file

A date is a year of four digits, a month and a day. A time of day may follow it behind a `T` or blanks,
and a `Z` or an offset from UTC may follow that. Whether there is such a day and time shows only when the
value is made.
-/

namespace KeepApart.Yaml

namespace Timestamp

structure Zone where
  isWest : Bool
  hours : Nat
  minutes : Nat

structure Clock where
  hour : Nat
  minute : Nat
  second : Nat
  micros : Nat
  zone : Option Zone

structure Stamp where
  year : Nat
  month : Nat
  day : Nat
  clock : Option Clock

/-! ## Reading -/

def readDigits (least most : Nat) (cs : List Char) : Option (Nat × List Char) :=
  let ds := (cs.take most).takeWhile Json.isAsciiDigit
  if ds.length < least then none else some (Json.digitsValue ds, cs.drop ds.length)

def readMark (mark : Char) : List Char → Option (List Char)
  | c :: cs => if c == mark then some cs else none
  | [] => none

/-- A fraction of a second in microseconds; digits behind the sixth do not count. -/
def microsOf (digits : List Char) : Nat :=
  Json.digitsValue ((digits.take 6).rightpad 6 '0')

def readFraction (cs : List Char) : Nat × List Char :=
  match cs with
  | '.' :: rest => (microsOf (rest.takeWhile Json.isAsciiDigit), rest.dropWhile Json.isAsciiDigit)
  | _ => (0, cs)

def readOffset (isWest : Bool) (cs : List Char) : Option Zone := do
  let (hours, rest) ← readDigits 1 2 cs
  if rest.isEmpty then some ⟨isWest, hours, 0⟩
  else
    let rest ← readMark ':' rest
    let (minutes, rest) ← readDigits 2 2 rest
    if rest.isEmpty then some ⟨isWest, hours, minutes⟩ else none

/-- Reads what may follow a time of day; the outer option tells whether it fits. -/
def readZone (cs : List Char) : Option (Option Zone) :=
  match cs, cs.dropWhile isBlank with
  | [], _ => some none
  | _, ['Z'] => some (some ⟨false, 0, 0⟩)
  | _, '+' :: rest => (readOffset false rest).map some
  | _, '-' :: rest => (readOffset true rest).map some
  | _, _ => none

def readClock (cs : List Char) : Option Clock := do
  let (hour, rest) ← readDigits 1 2 cs
  let rest ← readMark ':' rest
  let (minute, rest) ← readDigits 2 2 rest
  let rest ← readMark ':' rest
  let (second, rest) ← readDigits 2 2 rest
  let (micros, rest) := readFraction rest
  let zone ← readZone rest
  return ⟨hour, minute, second, micros, zone⟩

def skipSeparator? : List Char → Option (List Char)
  | 'T' :: cs | 't' :: cs => some cs
  | c :: cs => if isBlank c then some (cs.dropWhile isBlank) else none
  | [] => none

def read (cs : List Char) : Option Stamp := do
  let (year, rest) ← readDigits 4 4 cs
  let rest ← readMark '-' rest
  let (month, rest) ← readDigits 1 2 rest
  let rest ← readMark '-' rest
  let (day, rest) ← readDigits 1 2 rest
  if rest.isEmpty then some ⟨year, month, day, none⟩
  else
    let clock ← readClock (← skipSeparator? rest)
    return ⟨year, month, day, some clock⟩

/-- Without quotes and without a time of day the month and the day must have two digits. -/
def readPlain (cs : List Char) : Option Stamp :=
  (read cs).filter fun s => s.clock.isSome || cs.length == 10

/-! ## Values -/

def refuse {α : Type} (reason : String) : Except Trouble α :=
  .error (.fault (.badText reason))

def requireIn (name : String) (value least most : Nat) : Except Trouble Unit :=
  if least ≤ value && value ≤ most then .ok ()
  else refuse (name ++ " must be in " ++ toString least ++ ".." ++ toString most)

def dateOf (s : Stamp) : Except Trouble Date := do
  if s.year == 0 then refuse "year 0 is out of range"
  requireIn "month" s.month 1 12
  match Date.ofNumbers? s.year s.month s.day with
  | some d => return d
  | none => refuse "day is out of range for month"

def Zone.seconds (z : Zone) : Int :=
  let size : Int := (z.hours * 60 + z.minutes) * 60
  if z.isWest then -size else size

def offsetOf (z : Zone) : Except Trouble Int :=
  if z.seconds.natAbs < 86400 then .ok z.seconds
  else refuse ("offset must be a timedelta strictly between -timedelta(hours=24) and "
    ++ "timedelta(hours=24), not " ++ Value.quotedSpan z.seconds ++ ".")

def Clock.inDay (c : Clock) : Int :=
  (((c.hour * 60 + c.minute) * 60 + c.second) * 1000000 + c.micros : Nat)

def valueOf (s : Stamp) : Except Trouble Value := do
  match s.clock with
  | none => return .date (← dateOf s)
  | some c =>
    let offset ← c.zone.mapM offsetOf
    let d ← dateOf s
    requireIn "hour" c.hour 0 23
    requireIn "minute" c.minute 0 59
    requireIn "second" c.second 0 59
    return .moment ⟨(Moment.ofDate d).micros + c.inDay⟩ offset

end Timestamp

end KeepApart.Yaml
