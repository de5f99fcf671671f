import KeepApart.Text.Blank
import KeepApart.Text.DecimalDigit

/-!
# Integers in text

An integer is written with an optional sign and decimal digits of any script; single underscores may
stand between digits, and white space around the whole. More digits than a certain number are not read.
-/

namespace KeepApart.Text

inductive NumeralFault where
  | malformed
  | tooLong (digits : Nat)
  deriving DecidableEq, Repr

/-- Digits that were read: their value, their number and what is left behind them. -/
structure DigitRun where
  value : Nat
  count : Nat
  rest : List Char
  deriving DecidableEq, Repr

/-- Reads digits on, behind those read so far. An underscore must have digits on both its sides. -/
def digitRun? (value count : Nat) (behindDigit : Bool) : List Char → Option DigitRun
  | [] => if behindDigit then some ⟨value, count, []⟩ else none
  | c :: rest =>
    if c == '_' then
      if behindDigit then digitRun? value count false rest else none
    else
      match decimalDigit? c with
      | some d => digitRun? (value * 10 + d) (count + 1) true rest
      | none => if behindDigit then some ⟨value, count, c :: rest⟩ else none

def digitLimit : Nat := 4300

/-- Reads digits that fill a text. What is too long is found before what stands behind it. -/
def natural (cs : List Char) : Except NumeralFault Nat :=
  match digitRun? 0 0 false cs with
  | none => .error .malformed
  | some run =>
    if digitLimit < run.count then .error (.tooLong run.count)
    else if run.rest.isEmpty then .ok run.value
    else .error .malformed

def integer (s : String) : Except NumeralFault Int :=
  match trimBy isWhite s.toList with
  | '-' :: rest => (natural rest).map fun n => -(n : Int)
  | '+' :: rest => (natural rest).map Int.ofNat
  | rest => (natural rest).map Int.ofNat

def asciiNat? (s : List Char) : Option Nat :=
  if s.isEmpty then none
  else s.foldlM (fun n c => (asciiDigit? c).map fun d => n * 10 + d) 0

end KeepApart.Text
