import KeepApart.Schema

/-!
# Prisoner numbers

A prisoner number is one letter, four digits and two letters, all of ASCII. In a list of numbers a line
feed at the end of a number is let through.
-/

namespace KeepApart.Schema

def isLetter (c : Char) : Bool :=
  ('A' ≤ c && c ≤ 'Z') || ('a' ≤ c && c ≤ 'z')

def isDigit (c : Char) : Bool :=
  '0' ≤ c && c ≤ '9'

def isPrisonerNumberChars : List Char → Bool
  | [a, b, c, d, e, f, g] =>
    isLetter a && isDigit b && isDigit c && isDigit d && isDigit e && isLetter f && isLetter g
  | _ => false

def isPrisonerNumber (s : String) : Bool :=
  isPrisonerNumberChars s.toList

/-- A prisoner number, perhaps with a line feed behind it. -/
def isListedNumber (s : String) : Bool :=
  let cs := s.toList
  isPrisonerNumberChars cs || (cs.getLast? == some '\n' && isPrisonerNumberChars cs.dropLast)

def numberForm : String := "^[A-Za-z][0-9]\x7b4\x7d[A-Za-z]\x7b2\x7d$"

open Checked

def prisonerNumber : Check String := fun v =>
  (text v).andThen fun s =>
    if isPrisonerNumber s then accepted s
    else refuse ("String should match pattern '" ++ numberForm ++ "'") v

def groupMinimum : Nat := 2

def prisonerGroup : Check (List String) := fun v =>
  (listOf text v).andThen fun numbers =>
    if numbers.length < groupMinimum then
      refuse ("List should have at least " ++ toString groupMinimum
        ++ " items after validation, not " ++ toString numbers.length) v
    else
      match numbers.find? fun n => !isListedNumber n with
      | some n =>
        refuse ("Value error, Prisoner number must be in the correct format: " ++ Text.quote n) v
      | none => accepted numbers

end KeepApart.Schema
