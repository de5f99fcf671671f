import Mathlib.Algebra.Group.Nat.Defs
import KeepApart.Calendar.Timestamp
import KeepApart.Proofs.Digits

/-!
# Timestamps as they are written

A stamp is a date and a time of day to the second, with or without a fraction of six digits, and with or
without an offset from UTC. What is written for it is read as the moment that it denotes, so two
notations of one moment are read alike.
-/

namespace KeepApart

inductive Offset where
  | utc
  | ahead (hours minutes : Nat)
  | behind (hours minutes : Nat)

namespace Offset

def minutesAhead : Offset → Int
  | utc => 0
  | ahead hours minutes => hours * 60 + minutes
  | behind hours minutes => -(hours * 60 + minutes)

/-- The minutes have two digits, and the clock is less than a day off. -/
def IsInRange : Offset → Prop
  | utc => True
  | ahead hours minutes | behind hours minutes => minutes < 100 ∧ hours * 60 + minutes < 24 * 60

def text : Offset → String
  | utc => "Z"
  | ahead hours minutes => "+" ++ Date.padded 2 hours ++ ":" ++ Date.padded 2 minutes
  | behind hours minutes => "-" ++ Date.padded 2 hours ++ ":" ++ Date.padded 2 minutes

instance : DecidablePred IsInRange
  | utc => inferInstanceAs (Decidable True)
  | ahead hours minutes | behind hours minutes =>
    inferInstanceAs (Decidable (minutes < 100 ∧ hours * 60 + minutes < 24 * 60))

end Offset

structure Stamp where
  year : Nat
  month : Nat
  day : Nat
  hour : Nat
  minute : Nat
  second : Nat
  micros : Option Nat := none
  offset : Option Offset := none
  isDay : 1 ≤ year ∧ year ≤ 9999 ∧ 1 ≤ month ∧ month ≤ 12 ∧ 1 ≤ day ∧
    day ≤ Date.daysInMonth year month := by decide
  isTime : hour < 24 ∧ minute < 60 ∧ second < 60 ∧ ∀ n ∈ micros, n < 1000000 := by decide
  isOffset : ∀ z ∈ offset, z.IsInRange := by decide

namespace Stamp

def text (t : Stamp) : String :=
  Date.padded 4 t.year ++ "-" ++ Date.padded 2 t.month ++ "-" ++ Date.padded 2 t.day ++ "T"
    ++ Date.padded 2 t.hour ++ ":" ++ Date.padded 2 t.minute ++ ":" ++ Date.padded 2 t.second
    ++ t.micros.elim "" (fun n => "." ++ Date.padded 6 n) ++ t.offset.elim "" Offset.text

def date (t : Stamp) : Date :=
  ⟨Date.daysBeforeYear t.year + Date.daysBeforeMonth t.year t.month + (t.day - 1)⟩

/-- The moment in UTC that the stamp denotes; a clock without an offset shows UTC. -/
def instant (t : Stamp) : Moment :=
  let minutes : Int := t.hour * 60 + t.minute - t.offset.elim 0 Offset.minutesAhead
  ⟨t.date.days * Moment.microsPerDay + (minutes * 60 + t.second) * Moment.microsPerSecond
    + (t.micros.getD 0 : Nat)⟩

end Stamp

theorem Date.daysInMonth_le (year month : Nat) : daysInMonth year month ≤ 31 := by
  have hlengths : ∀ n ∈ monthLengths year, n ≤ 31 := by
    intro n hn
    simp only [monthLengths, List.mem_cons, List.not_mem_nil, or_false] at hn
    split at hn <;> omega
  rw [daysInMonth]
  cases h : (monthLengths year)[month - 1]? with
  | none => exact Nat.zero_le 31
  | some n => exact hlengths n (List.mem_of_getElem? h)

namespace Timestamp

open Schema

variable {cs rest : List Char} {c : Char} {k n v : Nat}

/-! ## Digits -/

def digits (width n : Nat) : List Char := (Nat.toDigits 10 n).leftpad width '0'

theorem toList_padded (width n : Nat) : (Date.padded width n).toList = digits width n :=
  String.toList_ofList

theorem ne_of_isDigit {d : Char} (hc : c.isDigit = true) (hd : d.isDigit = false) : c ≠ d := by
  rintro rfl
  rw [hc] at hd
  cases hd

theorem isDigit_of_mem_digits (hc : c ∈ digits k n) : c.isDigit = true := by
  rw [digits, List.leftpad, List.mem_append] at hc
  rcases hc with hc | hc
  · rw [List.eq_of_mem_replicate hc]
    decide
  · exact isDigit_of_mem hc

theorem length_digits (hk : 0 < k) (hn : n < 10 ^ k) : (digits k n).length = k := by
  have hlength : (Nat.toDigits 10 n).length ≤ k := (Nat.length_toDigits_le_iff (by decide) hk).2 hn
  rw [digits, List.length_leftpad, Nat.max_eq_left hlength]

theorem digits_ne_nil (k n : Nat) : digits k n ≠ [] := by
  rw [digits, List.leftpad]
  exact List.append_ne_nil_of_right_ne_nil _ Nat.toDigits_ne_nil

theorem readDigits_append (h : ∀ c ∈ cs, c.isDigit = true) :
    readDigits cs.length v (cs ++ rest) = some (Nat.ofDigitChars 10 cs v, rest) := by
  induction cs generalizing v with
  | nil => rfl
  | cons c cs ih =>
      have hdigit : Text.asciiDigit? c = some (c.toNat - '0'.toNat) :=
        if_pos (le_and_le_of_isDigit (h c List.mem_cons_self))
      rw [List.length_cons, List.cons_append, readDigits, hdigit, Nat.ofDigitChars_cons,
        Nat.mul_comm 10 v]
      exact ih fun c' hc' => h c' (List.mem_cons_of_mem _ hc')

/-- Zeros in front do not count. -/
theorem ofDigitChars_digits (k n : Nat) : Nat.ofDigitChars 10 (digits k n) 0 = n := by
  have hzeros (m : Nat) : Nat.ofDigitChars 10 (List.replicate m '0' ++ Nat.toDigits 10 n) 0 = n := by
    induction m with
    | zero => exact Nat.ofDigitChars_ten_toDigits
    | succ m ih =>
        rw [List.replicate_succ, List.cons_append, Nat.ofDigitChars_cons]
        exact ih
  exact hzeros _

theorem readDigits_digits (hk : 0 < k) (hn : n < 10 ^ k) :
    readDigits k 0 (digits k n ++ rest) = some (n, rest) := by
  have hread : readDigits (digits k n).length 0 (digits k n ++ rest) =
      some (Nat.ofDigitChars 10 (digits k n) 0, rest) :=
    readDigits_append fun c => isDigit_of_mem_digits
  rwa [length_digits hk hn, ofDigitChars_digits] at hread

theorem readDigits_all (hk : 0 < k) (hn : n < 10 ^ k) : readDigits k 0 (digits k n) = some (n, []) := by
  rw [← List.append_nil (digits k n)]
  exact readDigits_digits hk hn

theorem exists_head_digits (k n : Nat) : ∃ c cs, digits k n = c :: cs ∧ c.isDigit = true := by
  obtain ⟨c, cs, h⟩ := List.exists_cons_of_ne_nil (digits_ne_nil k n)
  exact ⟨c, cs, h, isDigit_of_mem_digits (h ▸ List.mem_cons_self)⟩

/-! ## The date -/

def dateChars (year month day : Nat) : List Char :=
  digits 4 year ++ '-' :: (digits 2 month ++ '-' :: digits 2 day)

section Day

variable {year month day : Nat}

theorem length_dateChars (hyear : year < 10000) (hmonth : month < 100) (hday : day < 100) :
    (dateChars year month day).length = 10 := by
  have h4 : (digits 4 year).length = 4 := length_digits (by decide) hyear
  have h2 : (digits 2 month).length = 2 := length_digits (by decide) hmonth
  have h2' : (digits 2 day).length = 2 := length_digits (by decide) hday
  simp only [dateChars, List.length_append, List.length_cons, h4, h2, h2']

theorem mem_dateChars (hc : c ∈ dateChars year month day) : c.isDigit = true ∨ c = '-' := by
  simp only [dateChars, List.mem_append, List.mem_cons] at hc
  rcases hc with hc | hc | hc | hc | hc
  · exact .inl (isDigit_of_mem_digits hc)
  · exact .inr hc
  · exact .inl (isDigit_of_mem_digits hc)
  · exact .inr hc
  · exact .inl (isDigit_of_mem_digits hc)

/-- A hyphen behind the year and no week behind the hyphen make a date of ten characters. -/
theorem dateLength_dateChars (hyear : year < 10000) (hmonth : month < 100) (hday : day < 100) :
    dateLength (dateChars year month day ++ rest) = 10 := by
  obtain ⟨c, cs, hhead, hc⟩ := exists_head_digits 2 month
  have hlength : ((dateChars year month day ++ rest).length == 7) = false := by
    rw [List.length_append, length_dateChars hyear hmonth hday, beq_eq_false_iff_ne]
    omega
  have h4 : (digits 4 year).length = 4 := length_digits (by decide) hyear
  have hhyphen : (dateChars year month day ++ rest)[4]? = some '-' := by
    rw [dateChars, List.append_assoc, List.getElem?_append_right (by omega), h4]
    rfl
  have hfirst : (dateChars year month day ++ rest)[5]? = some c := by
    rw [dateChars, List.append_assoc, List.getElem?_append_right (by omega), h4, hhead]
    rfl
  have hweek : c ≠ 'W' := ne_of_isDigit hc (by decide)
  rw [dateLength, hlength, hhyphen, hfirst]
  simp [hweek]

theorem readDate_dateChars (hyear : year < 10000) (hmonth : month < 100) (hday : day < 100) :
    readDate (dateChars year month day) = Date.ofNumbers? year month day := by
  rw [readDate, dateChars, readDigits_digits (by decide) hyear]
  simp only [Option.bind_eq_bind, Option.bind_some, List.head?_cons, beq_self_eq_true, if_true,
    List.drop_succ_cons, List.drop_zero]
  split
  · rename_i heq
    obtain ⟨c, cs, hhead, hc⟩ := exists_head_digits 2 month
    rw [hhead, List.cons_append, List.cons.injEq] at heq
    exact absurd heq.1 (ne_of_isDigit hc (by decide))
  · rw [readDigits_digits (by decide) hmonth]
    change ((readDigits 2 0 (digits 2 day)).bind _) = _
    rw [readDigits_all (by decide) hday]
    rfl

end Day

/-! ## The time of day -/

def fractionChars : Option Nat → List Char
  | none => []
  | some n => '.' :: digits 6 n

def fractionTail : Option Nat → Tail
  | none => .none
  | some n => .fraction (digits 6 n)

theorem readNumbers_colon {colons : Option Bool} {more : List Char} (hn : n < 100)
    (hcolons : colons.getD true = true) (hmore : more ≠ []) :
    readNumbers (k + 1) colons (digits 2 n ++ ':' :: more) =
      (readNumbers k (some true) more).map fun r => (n :: r.1, r.2) := by
  obtain ⟨c, cs, rfl⟩ := List.exists_cons_of_ne_nil hmore
  rw [readNumbers, readDigits_digits (by decide) hn]
  cases colons with
  | none => rfl
  | some b =>
      obtain rfl : b = true := hcolons
      rfl

theorem readNumbers_last (hn : n < 100) (fraction : Option Nat) :
    readNumbers (k + 1) (some true) (digits 2 n ++ fractionChars fraction) =
      some ([n], fractionTail fraction) := by
  rw [readNumbers, readDigits_digits (by decide) hn]
  cases fraction with
  | none => rfl
  | some m =>
      obtain ⟨c, cs, hhead, -⟩ := exists_head_digits 6 m
      simp only [fractionChars, fractionTail, hhead]
      rfl

section Clock

variable {hour minute second : Nat} {fraction : Option Nat}

def minuteChars (hour minute : Nat) : List Char := digits 2 hour ++ ':' :: digits 2 minute

def clockChars (hour minute second : Nat) (fraction : Option Nat) : List Char :=
  digits 2 hour ++ ':' :: (digits 2 minute ++ ':' :: (digits 2 second ++ fractionChars fraction))

theorem readClock_clockChars (hhour : hour < 24) (hminute : minute < 60) (hsecond : second < 60)
    (hfraction : ∀ n ∈ fraction, n < 1000000) :
    readClock 24 60 60 (clockChars hour minute second fraction) =
      some (((hour * 60 + minute) * 60 + second) * 1000000 + fraction.getD 0, true) := by
  have hnumbers : readNumbers 3 none (clockChars hour minute second fraction) =
      some ([hour, minute, second], fractionTail fraction) := by
    rw [clockChars, readNumbers_colon (by omega) rfl (by simp),
      readNumbers_colon (by omega) rfl (by simp [digits_ne_nil]), readNumbers_last (by omega)]
    rfl
  have hlimits : ¬ (24 ≤ hour ∨ 60 ≤ minute ∨ 60 ≤ second) := by omega
  rw [readClock, hnumbers]
  simp only [Option.bind_eq_bind, Option.bind_some, List.getElem?_cons_zero,
    List.getElem?_cons_succ, Option.getD_some]
  rw [if_neg hlimits]
  cases fraction with
  | none => simp [fractionTail]
  | some n =>
      have hlength : (digits 6 n).length = 6 := length_digits (by decide) (hfraction n rfl)
      have hread : readDigits 6 0 (digits 6 n) = some (n, []) :=
        readDigits_all (by decide) (hfraction n rfl)
      simp only [fractionTail, hlength, Nat.min_self, hread]
      simp [atEnd]

/-- An offset is read off a clock that shows whole seconds and less than a day. -/
theorem readOffset_of_readClock {micros : Nat} (hclock : readClock 100 100 100 cs = some (micros, true))
    (hshort : micros < microsOfDay) (hwhole : micros = 0 ∨ 1000000 ≤ micros) :
    readOffset cs = some micros := by
  rw [readOffset, hclock]
  simp only [Option.bind_eq_bind, Option.bind_some, Bool.true_and]
  rw [if_pos (decide_eq_true hshort), Option.some.injEq]
  split <;> omega

theorem readOffset_minuteChars (hminute : minute < 100) (hday : hour * 60 + minute < 24 * 60) :
    readOffset (minuteChars hour minute) = some ((hour * 60 + minute) * 60 * 1000000) := by
  have hlast := readNumbers_last (k := 1) hminute none
  rw [fractionChars, List.append_nil] at hlast
  have hnumbers : readNumbers 3 none (minuteChars hour minute) = some ([hour, minute], .none) := by
    rw [minuteChars, readNumbers_colon (by omega) rfl (digits_ne_nil 2 minute), hlast]
    rfl
  have hlimits : ¬ (100 ≤ hour ∨ 100 ≤ minute ∨ 100 ≤ 0) := by omega
  apply readOffset_of_readClock
  · rw [readClock, hnumbers]
    simp only [Option.bind_eq_bind, Option.bind_some, List.getElem?_cons_zero,
      List.getElem?_cons_succ, List.getElem?_nil, Option.getD_some, Option.getD_none]
    rw [if_neg hlimits, Nat.add_zero]
  · unfold microsOfDay
    omega
  · omega

theorem mem_minuteChars (hc : c ∈ minuteChars hour minute) : c.isDigit = true ∨ c = ':' := by
  rw [minuteChars, List.mem_append, List.mem_cons] at hc
  rcases hc with hc | rfl | hc
  · exact .inl (isDigit_of_mem_digits hc)
  · exact .inr rfl
  · exact .inl (isDigit_of_mem_digits hc)

theorem mem_clockChars (hc : c ∈ clockChars hour minute second fraction) :
    c.isDigit = true ∨ c = ':' ∨ c = '.' := by
  have hfraction (hc : c ∈ fractionChars fraction) : c.isDigit = true ∨ c = '.' := by
    cases fraction with
    | none => cases hc
    | some n =>
        rcases List.mem_cons.1 hc with rfl | hc
        · exact .inr rfl
        · exact .inl (isDigit_of_mem_digits hc)
  simp only [clockChars, List.mem_append, List.mem_cons] at hc
  rcases hc with hc | rfl | hc | rfl | hc | hc
  · exact .inl (isDigit_of_mem_digits hc)
  · exact .inr (.inl rfl)
  · exact .inl (isDigit_of_mem_digits hc)
  · exact .inr (.inl rfl)
  · exact .inl (isDigit_of_mem_digits hc)
  · exact (hfraction hc).imp_right .inr

end Clock

theorem isSign_of_isDigit (hc : c.isDigit = true) : isSign c = false := by
  have hplus : c ≠ '+' := ne_of_isDigit hc (by decide)
  have hminus : c ≠ '-' := ne_of_isDigit hc (by decide)
  simp [isSign, hplus, hminus]

/-! ## The offset -/

def offsetChars : Option Offset → List Char
  | none => []
  | some .utc => '+' :: minuteChars 0 0
  | some (.ahead hours minutes) => '+' :: minuteChars hours minutes
  | some (.behind hours minutes) => '-' :: minuteChars hours minutes

theorem readTime_clockChars {hour minute second : Nat} {fraction : Option Nat} {offset : Option Offset}
    (hhour : hour < 24) (hminute : minute < 60) (hsecond : second < 60)
    (hfraction : ∀ n ∈ fraction, n < 1000000) (hoffset : ∀ z ∈ offset, z.IsInRange) :
    readTime (clockChars hour minute second fraction ++ offsetChars offset) =
      some ((((hour * 60 + minute - offset.elim 0 Offset.minutesAhead) * 60 + second) * 1000000
        + (fraction.getD 0 : Nat) : Int)) := by
  have hplain : ∀ c ∈ clockChars hour minute second fraction, (!isSign c) = true := by
    intro c hc
    rcases mem_clockChars hc with hc | rfl | rfl
    · rw [isSign_of_isDigit hc]
      rfl
    · rfl
    · rfl
  have htake : (clockChars hour minute second fraction ++ offsetChars offset).takeWhile
      (fun c => !isSign c) = clockChars hour minute second fraction := by
    rw [List.takeWhile_append_of_pos hplain]
    rcases offset with _ | _ | _ | _ <;> exact List.append_nil _
  have hdrop : (clockChars hour minute second fraction ++ offsetChars offset).dropWhile
      (fun c => !isSign c) = offsetChars offset := by
    rw [List.dropWhile_append_of_pos hplain]
    rcases offset with _ | _ | _ | _ <;> rfl
  rw [readTime, htake, readClock_clockChars hhour hminute hsecond hfraction, hdrop]
  rcases offset with _ | _ | ⟨hours, minutes⟩ | ⟨hours, minutes⟩
  · simp [offsetChars]
  · have hread : readOffset (minuteChars 0 0) = some 0 := readOffset_minuteChars (by decide) (by decide)
    simp [offsetChars, hread, Offset.minutesAhead]
  · obtain ⟨hdigits, hday⟩ := hoffset _ rfl
    have hread := readOffset_minuteChars hdigits hday
    simp only [offsetChars, hread, Char.reduceBEq, Bool.false_eq_true, if_false, Option.bind_eq_bind,
      Option.bind_some, Option.elim_some, Offset.minutesAhead, Option.some.injEq]
    omega
  · obtain ⟨hdigits, hday⟩ := hoffset _ rfl
    have hread := readOffset_minuteChars hdigits hday
    simp only [offsetChars, hread, BEq.rfl, if_true, Option.bind_eq_bind, Option.bind_some,
      Option.elim_some, Offset.minutesAhead, Option.some.injEq]
    omega

/-! ## The whole stamp -/

theorem spellOffset_eq_self (h : 'Z' ∉ cs) : spellOffset cs = cs := by
  induction cs with
  | nil => rfl
  | cons c cs ih =>
      rw [List.mem_cons, not_or] at h
      have hother : ¬ (c == 'Z') = true := by simpa using Ne.symm h.1
      have hrest := ih h.2
      rw [spellOffset] at hrest ⊢
      rw [List.flatMap_cons, if_neg hother, hrest]
      rfl

def localChars (t : Stamp) : List Char :=
  dateChars t.year t.month t.day ++ 'T' :: clockChars t.hour t.minute t.second t.micros

theorem utc_not_mem_localChars (t : Stamp) : 'Z' ∉ localChars t := by
  intro h
  rcases List.mem_append.1 h with h | h
  · exact absurd (mem_dateChars h) (by decide)
  · rcases List.mem_cons.1 h with h | h
    · exact absurd h (by decide)
    · exact absurd (mem_clockChars h) (by decide)

theorem toList_text (t : Stamp) :
    t.text.toList = localChars t ++ (t.offset.elim "" Offset.text).toList := by
  have hfraction : (t.micros.elim "" fun n => "." ++ Date.padded 6 n).toList =
      fractionChars t.micros := by
    cases t.micros with
    | none => rfl
    | some n =>
        change ("." ++ Date.padded 6 n).toList = '.' :: digits 6 n
        rw [String.toList_append, toList_padded]
        rfl
  simp only [Stamp.text, String.toList_append, toList_padded, hfraction, localChars, dateChars,
    clockChars, List.append_assoc, List.cons_append]
  rfl

theorem spellOffset_offset (offset : Option Offset) :
    spellOffset (offset.elim "" Offset.text).toList = offsetChars offset := by
  have hutc (hour minute : Nat) (sign : Char) (hsign : sign ≠ 'Z') :
      'Z' ∉ sign :: minuteChars hour minute := by
    rw [List.mem_cons, not_or]
    exact ⟨hsign.symm, fun h => absurd (mem_minuteChars h) (by decide)⟩
  rcases offset with _ | _ | ⟨hours, minutes⟩ | ⟨hours, minutes⟩
  · rfl
  · rfl
  · have htext : (Offset.ahead hours minutes).text.toList = '+' :: minuteChars hours minutes := by
      simp only [Offset.text, String.toList_append, toList_padded, minuteChars, List.append_assoc]
      rfl
    change spellOffset (Offset.ahead hours minutes).text.toList = _
    rw [htext, spellOffset_eq_self (hutc _ _ _ (by decide))]
    rfl
  · have htext : (Offset.behind hours minutes).text.toList = '-' :: minuteChars hours minutes := by
      simp only [Offset.text, String.toList_append, toList_padded, minuteChars, List.append_assoc]
      rfl
    change spellOffset (Offset.behind hours minutes).text.toList = _
    rw [htext, spellOffset_eq_self (hutc _ _ _ (by decide))]
    rfl

theorem spellOffset_text (t : Stamp) :
    spellOffset t.text.toList = localChars t ++ offsetChars t.offset := by
  have hlocal := spellOffset_eq_self (utc_not_mem_localChars t)
  rw [toList_text, spellOffset, List.flatMap_append]
  exact congrArg₂ _ hlocal (spellOffset_offset t.offset)

/-- The text of a stamp is read as the moment that the stamp denotes. -/
theorem moment?_text (t : Stamp) : moment? t.text = some t.instant := by
  obtain ⟨hyear, hyear', hmonth, hmonth', hday, hday'⟩ := t.isDay
  obtain ⟨hhour, hminute, hsecond, hmicros⟩ := t.isTime
  have hdays := Date.daysInMonth_le t.year t.month
  have hlength : (dateChars t.year t.month t.day).length = 10 :=
    length_dateChars (by omega) (by omega) (by omega)
  have hdate : readDate (dateChars t.year t.month t.day) = some t.date := by
    rw [readDate_dateChars (by omega) (by omega) (by omega)]
    exact if_pos t.isDay
  have htime := readTime_clockChars hhour hminute hsecond hmicros t.isOffset
  rw [moment?, spellOffset_text, localChars, List.append_assoc, readMoment,
    dateLength_dateChars (by omega) (by omega) (by omega), ← hlength, List.take_left,
    List.drop_left, hdate, List.cons_append]
  change (readTime (clockChars t.hour t.minute t.second t.micros ++ offsetChars t.offset)).bind _ = _
  rw [htime, Option.bind_some, Option.some.injEq]
  simp only [Stamp.instant, Moment.ofDate, Moment.microsPerSecond, Moment.mk.injEq]
  omega

/-- Half an hour past the new year an hour ahead of UTC is the old year in UTC. -/
example :
    let ahead : Stamp := ⟨2024, 1, 1, 0, 30, 0, none, some (.ahead 1 0), by decide, by decide, by decide⟩
    let plain : Stamp := ⟨2023, 12, 31, 23, 30, 0, none, none, by decide, by decide, by decide⟩
    ahead.text = "2024-01-01T00:30:00+01:00" ∧ plain.text = "2023-12-31T23:30:00" ∧
      ahead.instant = plain.instant := by
  decide

end Timestamp

end KeepApart
