import KeepApart.Calendar.Date
import KeepApart.Decimal.Binary
import KeepApart.Decimal.Reading
import KeepApart.Schema
import KeepApart.Text.Numeral

/-!
# Dates and times in input

A date is `YYYY-MM-DD`. A time is a date, one of `T`, `t`, `_` and space, and `HH:MM[:SS[.F]]`, where a
comma may take the place of the point and six digits of the fraction count; then perhaps `Z`, `z` or an
offset from UTC. Either may also be a number, or the text of one: seconds since 1970, or milliseconds
when there are very many. Where a date is wanted a time at midnight will do, and where a time is wanted a
date will do. Times with an offset are moved to UTC. The year 0 can be written but is refused.

Readers work on the octets that are left, each as a character, and fail with what is wrong.
-/

namespace KeepApart.Schema

open Checked

inductive TimeFault where
  | short | extra | separator | year | dateSeparator | month | day | monthRange | dayRange
  | hour | timeSeparator | minute | second | hourRange | minuteRange | secondRange | fraction
  | zoneSign | zoneHour | zoneMinute | zoneMinuteRange | zoneRange | early | late | notNumber
  deriving DecidableEq, Repr

def TimeFault.message : TimeFault → String
  | short => "input is too short"
  | extra => "unexpected extra characters at the end of the input"
  | separator => "invalid datetime separator, expected `T`, `t`, `_` or space"
  | year => "invalid character in year"
  | dateSeparator => "invalid date separator, expected `-`"
  | month => "invalid character in month"
  | day => "invalid character in day"
  | monthRange => "month value is outside expected range of 1-12"
  | dayRange => "day value is outside expected range"
  | hour => "invalid character in hour"
  | timeSeparator => "invalid time separator, expected `:`"
  | minute => "invalid character in minute"
  | second => "invalid character in second"
  | hourRange => "hour value is outside expected range of 0-23"
  | minuteRange => "minute value is outside expected range of 0-59"
  | secondRange => "second value is outside expected range of 0-59"
  | fraction => "second fraction digits missing after `.`"
  | zoneSign => "invalid timezone sign"
  | zoneHour => "invalid timezone hour"
  | zoneMinute => "invalid timezone minute"
  | zoneMinuteRange => "timezone minute value is outside expected range of 0-59"
  | zoneRange => "timezone offset must be less than 24 hours"
  | early => "dates before 0000 are not supported as unix timestamps"
  | late => "dates after 9999 are not supported as unix timestamps"
  | notNumber => "NaN values not permitted"

namespace Time

def octets (s : String) : List Char :=
  s.toUTF8.toList.map fun b => Char.ofNat b.toNat

def digit? (c : Char) : Option Nat :=
  if '0' ≤ c ∧ c ≤ '9' then some (c.toNat - '0'.toNat) else none

def digits (fault : TimeFault) : (n value : Nat) → List Char → Except TimeFault (Nat × List Char)
  | 0, value, cs => .ok (value, cs)
  | _ + 1, _, [] => .error fault
  | n + 1, value, c :: cs =>
    match digit? c with
    | some d => digits fault n (value * 10 + d) cs
    | none => .error fault

def mark (fault : TimeFault) (allowed : List Char) : List Char → Except TimeFault (List Char)
  | c :: cs => if allowed.contains c then .ok cs else .error fault
  | [] => .error fault

def dateStart (cs : List Char) : Except TimeFault (Date × List Char) := do
  if cs.length < 10 then throw .short
  let (year, cs) ← digits .year 4 0 cs
  let cs ← mark .dateSeparator ['-'] cs
  let (month, cs) ← digits .month 2 0 cs
  let cs ← mark .dateSeparator ['-'] cs
  let (day, cs) ← digits .day 2 0 cs
  if month < 1 ∨ 12 < month then throw .monthRange
  if day < 1 ∨ Date.daysInMonth year month < day then throw .dayRange
  return (⟨Date.daysBeforeYear year + Date.daysBeforeMonth year month + (day - 1 : Nat)⟩, cs)

/-- Reads the seconds with their fraction, as microseconds; without a colon there are none. -/
def seconds : List Char → Except TimeFault (Nat × List Char)
  | ':' :: cs => do
    let (second, cs) ← digits .second 2 0 cs
    if 59 < second then throw .secondRange
    match cs with
    | c :: rest =>
      if c == '.' || c == ',' then
        let fraction := rest.takeWhile fun c => (digit? c).isSome
        if fraction.isEmpty then throw .fraction
        let kept := fraction.take 6
        let (value, _) ← digits .fraction kept.length 0 kept
        return (second * 1000000 + value * Nat.pow 10 (6 - kept.length), rest.drop fraction.length)
      else return (second * 1000000, cs)
    | [] => return (second * 1000000, cs)
  | cs => .ok (0, cs)

def clock (cs : List Char) : Except TimeFault (Nat × List Char) := do
  if cs.length < 5 then throw .short
  let (hour, cs) ← digits .hour 2 0 cs
  let cs ← mark .timeSeparator [':'] cs
  let (minute, cs) ← digits .minute 2 0 cs
  if 23 < hour then throw .hourRange
  if 59 < minute then throw .minuteRange
  let (micros, cs) ← seconds cs
  return ((hour * 60 + minute) * 60000000 + micros, cs)

/-- Reads the sign of an offset: a plus, a minus or the minus sign U+2212. -/
def zoneSign : List Char → Except TimeFault (Int × List Char)
  | '+' :: cs => .ok (1, cs)
  | '-' :: cs => .ok (-1, cs)
  | '\u00e2' :: '\u0088' :: '\u0092' :: cs => .ok (-1, cs)
  | _ => .error .zoneSign

/-- Reads the offset from UTC in seconds; none when nothing is left. -/
def zone : List Char → Except TimeFault (Int × List Char)
  | [] => .ok (0, [])
  | c :: cs => do
    if c == 'Z' || c == 'z' then return (0, cs)
    let (sign, cs) ← zoneSign (c :: cs)
    let (hour, cs) ← digits .zoneHour 2 0 cs
    let cs := if cs.head? == some ':' then cs.drop 1 else cs
    let (minute, cs) ← digits .zoneMinute 2 0 cs
    if 59 < minute then throw .zoneMinuteRange
    let offset := hour * 3600 + minute * 60
    if 86400 ≤ offset then throw .zoneRange
    return (sign * offset, cs)

/-! ## Numbers -/

/-- Numbers above this size count milliseconds. -/
def secondsLimit : Int := 20000000000

/-- The start of the year 0. -/
def earliestSecond : Int := -62167219200

def latestSecond : Int := 253402300799

/-- Seconds from 0001-01-01 to 1970-01-01. -/
def epochSeconds : Int := 719162 * 86400

def ofSecond (second micros : Int) : Except TimeFault Moment := do
  if second < earliestSecond then throw .early
  if latestSecond < second then throw .late
  return ⟨(epochSeconds + second) * 1000000 + micros⟩

def ofCount (count : Int) : Except TimeFault Moment :=
  if secondsLimit < count.natAbs then ofSecond (count / 1000) (count % 1000 * 1000)
  else ofSecond count 0

/-- The moment of a double. It is split into seconds and microseconds by the arithmetic of doubles, and
a half of a microsecond goes up. -/
def ofDouble (x : Rat) : Except TimeFault Moment :=
  let seconds := if secondsLimit < (if x < 0 then -x else x) then Decimal.round53 (x / 1000) else x
  let part := Decimal.round53 (seconds - seconds.floor)
  ofSecond seconds.floor (Decimal.round53 (part * 1000000) + 1 / 2).floor

def countLimit : Nat := 9223372036854775807

def wholeNumber? (cs : List Char) : Option Int :=
  let negative := cs.head? == some '-'
  let body := if negative || cs.head? == some '+' then cs.drop 1 else cs
  match Text.asciiNat? body with
  | some n => if countLimit < n then none else some (if negative then -(n : Int) else n)
  | none => none

def exponent? : List Char → Option Int
  | [] => some 0
  | m :: cs =>
    if m == 'e' || m == 'E' then
      match cs with
      | '-' :: ds => (Text.asciiNat? ds).map fun n => -(n : Int)
      | '+' :: ds => (Text.asciiNat? ds).map Int.ofNat
      | ds => (Text.asciiNat? ds).map Int.ofNat
    else none

/-- The double that a text stands for: digits with or without a point among or around them, and perhaps
an exponent. -/
def double? (cs : List Char) : Option Rat := do
  let isDigit (c : Char) : Bool := (digit? c).isSome
  let negative := cs.head? == some '-'
  let body := if negative || cs.head? == some '+' then cs.drop 1 else cs
  let whole := body.takeWhile isDigit
  let rest := body.dropWhile isDigit
  let fraction := if rest.head? == some '.' then (rest.drop 1).takeWhile isDigit else []
  let rest := if rest.head? == some '.' then (rest.drop 1).dropWhile isDigit else rest
  let size ← Text.asciiNat? (whole ++ fraction)
  let exponent ← exponent? rest
  let x ← Decimal.ofFloat? (Decimal.floatOf size (exponent - (fraction.length : Int)))
  return if negative then -x else x

def ofNumberText (fault : TimeFault) (cs : List Char) : Except TimeFault Moment :=
  match wholeNumber? cs, double? cs with
  | some n, _ => ofCount n
  | none, some x => ofDouble x
  | none, none => .error fault

/-! ## Whole texts -/

structure Reading where
  written : Moment
  offset : Int

def Reading.moment (r : Reading) : Moment :=
  ⟨r.written.micros - r.offset * 1000000⟩

def readTime (cs : List Char) : Except TimeFault Reading := do
  let (date, cs) ← dateStart cs
  let cs ← mark .separator ['T', 't', ' ', '_'] cs
  let (micros, cs) ← clock cs
  let (offset, cs) ← zone cs
  if !cs.isEmpty then throw .extra
  return ⟨⟨(Moment.ofDate date).micros + micros⟩, offset⟩

def ofText (cs : List Char) : Except TimeFault Reading :=
  match readTime cs with
  | .ok r => .ok r
  | .error fault => (ofNumberText fault cs).map fun t => ⟨t, 0⟩

def readDate (cs : List Char) : Except TimeFault Date := do
  let (date, cs) ← dateStart cs
  if !cs.isEmpty then throw .extra
  return date

def faultAsDate (fault : TimeFault) (cs : List Char) : TimeFault :=
  match (wholeNumber? cs).map ofCount with
  | some (.error f) => f
  | _ => fault

end Time

/-! ## Checks -/

/-- A number as a moment. A whole number that cannot be counted exactly is taken as a double, and one
that no double comes near is no moment at all. -/
def momentOfNumber : Json → Option (Except TimeFault Moment)
  | .int n =>
    if n.natAbs ≤ Time.countLimit then some (Time.ofCount n)
    else if Nat.pow 2 1024 - Nat.pow 2 970 ≤ n.natAbs then none
    else some (Time.ofDouble (Decimal.round53 n))
  | .float x =>
    if x.isNaN then some (.error .notNumber)
    else
      match Decimal.ofFloat? x with
      | some r => some (Time.ofDouble r)
      | none => some (.error (if x < 0 then .early else .late))
  | _ => none

def yearZero : String := "year 0 is out of range"

def calendarTime (v : Json) (r : Time.Reading) : Checked Moment :=
  if r.written < Moment.earliest then refuse ("Input should be a valid datetime, " ++ yearZero) v
  else accepted r.moment

def moment : Check Moment := fun v =>
  let wanted := "Input should be a valid datetime"
  match v with
  | .str s =>
    let cs := Time.octets s
    match Time.ofText cs, Time.readDate cs with
    | .ok r, _ => calendarTime v r
    | .error _, .ok d => calendarTime v ⟨Moment.ofDate d, 0⟩
    | .error _, .error fault =>
      refuse (wanted ++ " or date, " ++ (Time.faultAsDate fault cs).message) v
  | .surrogates _ => refuse brokenText v
  | v =>
    match momentOfNumber v with
    | some (.ok t) => calendarTime v ⟨t, 0⟩
    | some (.error fault) => refuse (wanted ++ ", " ++ fault.message) v
    | none => refuse wanted v

def dateOfMidnight (v : Json) : Except TimeFault Moment → Checked Date
  | .ok t =>
    if t.timeOfDay != 0 then
      refuse "Datetimes provided to dates should have zero time - e.g. be exact dates" v
    else if t < Moment.earliest then
      refuse ("Input should be a valid date in the format YYYY-MM-DD, " ++ yearZero) v
    else accepted t.date
  | .error fault => refuse ("Input should be a valid date or datetime, " ++ fault.message) v

def date : Check Date := fun v =>
  match v with
  | .str s =>
    let cs := Time.octets s
    match Time.readDate cs with
    | .ok d => dateOfMidnight v (.ok (Moment.ofDate d))
    | .error _ => dateOfMidnight v ((Time.ofText cs).map (·.written))
  | .surrogates _ => refuse brokenText v
  | v =>
    match momentOfNumber v with
    | some outcome => dateOfMidnight v outcome
    | none => refuse "Input should be a valid date" v

end KeepApart.Schema
