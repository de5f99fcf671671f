import KeepApart.Calendar.Date
import KeepApart.Json
import KeepApart.Text.DecimalDigit

/-!
# Timestamps in events

An event gives its moments as a date, optionally followed by a separator and a time of day, optionally
followed by an offset from UTC. The date is `YYYY-MM-DD`, `YYYYMMDD` or a week date `YYYY-Www[-D]`,
`YYYYWww[D]`. The time has two to six digits, with or without colons, and may end in a fraction of which
six digits count. A time with an offset is moved to UTC. The separator may be any character, even half of a
surrogate pair.

The readers here work on the characters that are left and fail on the first one that does not fit.
-/

namespace KeepApart.Timestamp

def readDigits : (n : Nat) → (value : Nat) → List Char → Option (Nat × List Char)
  | 0, value, cs => some (value, cs)
  | _ + 1, _, [] => none
  | n + 1, value, c :: cs =>
    match Text.asciiDigit? c with
    | some d => readDigits n (value * 10 + d) cs
    | none => none

def isDigit (c : Char) : Bool :=
  (Text.asciiDigit? c).isSome

/-! ## The date -/

/-- Does a year of week dates have a week 53? -/
def hasLongYear (year : Nat) : Bool :=
  let weekday := Date.daysBeforeYear year % 7
  weekday == 3 || (weekday == 2 && Date.isLeap year)

/-- The Monday that starts week 1, the week of the year's first Thursday. -/
def firstMonday (year : Nat) : Int :=
  let start := Date.daysBeforeYear year
  let weekday := start % 7
  if weekday ≤ 3 then start - weekday else start - weekday + 7

def ofWeek? (year week day : Nat) : Option Date :=
  let weeks := if hasLongYear year then 53 else 52
  if 1 ≤ year ∧ 1 ≤ week ∧ week ≤ weeks ∧ 1 ≤ day ∧ day ≤ 7 then
    let days := firstMonday year + ((week - 1) * 7 + (day - 1) : Nat)
    if days < 3652059 then some ⟨days⟩ else none
  else none

/-- How many characters the date takes. Where `YYYY-Www-` is followed by two characters of which the
second is a digit, the hyphen is the separator; where digits follow `YYYYWww`, their number decides. -/
def dateLength (cs : List Char) : Nat :=
  if cs.length == 7 then 7
  else if cs[4]? == some '-' then
    if cs[5]? == some 'W' then
      if cs[8]? == some '-' then
        if (cs[10]?).any isDigit then 8 else 10
      else 8
    else 10
  else if cs[4]? == some 'W' then
    let digits := ((cs.drop 7).takeWhile isDigit).length
    if digits < 2 then 7 + digits else if digits % 2 == 1 then 7 else 8
  else 8

def readHyphen (needed : Bool) (cs : List Char) : Option (List Char) :=
  if needed then
    match cs with
    | '-' :: rest => some rest
    | _ => none
  else some cs

def readWeek (year : Nat) (hyphens : Bool) (cs : List Char) : Option Date := do
  let (week, rest) ← readDigits 2 0 cs
  if rest.isEmpty then ofWeek? year week 1
  else
    let rest ← readHyphen hyphens rest
    let (day, rest) ← readDigits 1 0 rest
    if rest.isEmpty then ofWeek? year week day else none

def readDate (cs : List Char) : Option Date := do
  let (year, rest) ← readDigits 4 0 cs
  let hyphens := rest.head? == some '-'
  let rest := if hyphens then rest.drop 1 else rest
  match rest with
  | 'W' :: rest => readWeek year hyphens rest
  | _ =>
    let (month, rest) ← readDigits 2 0 rest
    let rest ← readHyphen hyphens rest
    let (day, rest) ← readDigits 2 0 rest
    if rest.isEmpty then Date.ofNumbers? year month day else none

/-! ## The time of day -/

inductive Tail where
  | none
  /-- Something that no clock ends with. -/
  | stray
  | fraction (digits : List Char)

/-- Reads up to `n` numbers of two digits. `colons` tells whether colons stand between them, once that
is known. -/
def readNumbers : (n : Nat) → (colons : Option Bool) → List Char → Option (List Nat × Tail)
  | 0, _, cs => some ([], .fraction cs)
  | n + 1, colons, cs => do
    let (v, rest) ← readDigits 2 0 cs
    match rest with
    | [] => some ([v], .none)
    | [c] =>
      if c == '\x00' then some ([v], .none)
      else if c.toNat < 0x80 then some ([v], .stray)
      else none
    | c :: more =>
      let colons := colons.getD (c == ':')
      if colons && c == ':' then
        (readNumbers n (some colons) more).map fun r => (v :: r.1, r.2)
      else if c == '.' || c == ',' then some ([v], .fraction more)
      else if colons then none
      else (readNumbers n (some colons) rest).map fun r => (v :: r.1, r.2)

def atEnd (cs : List Char) : Bool :=
  cs.head?.all (· == '\x00')

/-- Reads a clock as microseconds, from numbers within the given limits; the flag tells whether nothing
stray follows. -/
def readClock (hours minutes seconds : Nat) (cs : List Char) : Option (Nat × Bool) := do
  let (numbers, tail) ← readNumbers 3 none cs
  let hour := (numbers[0]?).getD 0
  let minute := (numbers[1]?).getD 0
  let second := (numbers[2]?).getD 0
  let whole := ((hour * 60 + minute) * 60 + second) * 1000000
  if hours ≤ hour ∨ minutes ≤ minute ∨ seconds ≤ second then none
  else
    match tail with
    | .none => some (whole, true)
    | .stray => some (whole, false)
    | .fraction digits =>
      let n := min 6 digits.length
      let (value, rest) ← readDigits n 0 digits
      some (whole + value * Nat.pow 10 (6 - n), atEnd (rest.dropWhile isDigit))

def isSign (c : Char) : Bool :=
  c == '+' || c == '-'

def microsOfDay : Nat := 86400 * 1000000

/-- Reads an offset of less than a day behind its sign. A fraction of a second alone is no offset. -/
def readOffset (cs : List Char) : Option Nat := do
  let (offset, clean) ← readClock 100 100 100 cs
  if clean && offset < microsOfDay then some (if offset < 1000000 then 0 else offset) else none

def readTime (cs : List Char) : Option Int := do
  let (micros, clean) ← readClock 24 60 60 (cs.takeWhile fun c => !isSign c)
  match cs.dropWhile fun c => !isSign c with
  | [] => if clean then some micros else none
  | sign :: rest =>
    let offset ← readOffset rest
    some (if sign == '-' then micros + offset else micros - offset)

def spellOffset (cs : List Char) : List Char :=
  cs.flatMap fun c => if c == 'Z' then "+00:00".toList else [c]

def readMoment (cs : List Char) : Option Moment := do
  let n := dateLength cs
  let date ← readDate (cs.take n)
  match cs.drop n with
  | [] => some (Moment.ofDate date)
  | _ :: time =>
    let micros ← readTime time
    some ⟨(Moment.ofDate date).micros + micros⟩

/-- The moment that a timestamp means, in UTC. An offset may carry it out of the calendar. -/
def moment? (s : String) : Option Moment :=
  readMoment (spellOffset s.toList)

def separatorPlaces : List Nat := [7, 8, 10]

/-- The characters of a text with halves of surrogate pairs. One half, the first where a separator can
stand, counts as the separator `T`; with another one the text has no characters. -/
def separated? (codes : List Nat) : Option (List Char) :=
  let codes :=
    match separatorPlaces.find? fun i => (codes[i]?).any Json.isSurrogate with
    | some i => codes.set i 'T'.toNat
    | none => codes
  if codes.any Json.isSurrogate then none else some (codes.map Char.ofNat)

def momentOfCodes? (codes : List Nat) : Option Moment :=
  let spelled := codes.flatMap fun c =>
    if c == 'Z'.toNat then "+00:00".toList.map Char.toNat else [c]
  (separated? spelled).bind readMoment

end KeepApart.Timestamp
