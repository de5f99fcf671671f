import KeepApart.Decimal.Binary
import KeepApart.Schema
import KeepApart.Text.Numeral

/-!
# Integers and truth values in input

An integer may come as a number without a fraction, as a truth value, or as text: blanks around it, a
sign, leading zeros, a fraction of zeros and single underscores between digits are passed over. A truth
value may come as zero or one or as one of a few words. Doubles count only within the range of 64 bits,
and a text only up to a certain length.
-/

namespace KeepApart.Schema

open Checked

/-! ## Integers -/

/-- Drops zeros in front of another digit, and single underscores among them. A minus sign may come
behind the zeros. -/
def dropZeros (previous : Char) : List Char → Option (List Char)
  | [] => some [previous]
  | c :: rest =>
    if c == '_' && previous == '_' then none
    else if c == '0' || c == '_' then dropZeros c rest
    else if c == '.' then some (previous :: c :: rest)
    else if ('1' ≤ c && c ≤ '9') || c == '-' then some (c :: rest)
    else none

def dropLeadingZeros : List Char → Option (List Char)
  | '0' :: rest => dropZeros '0' rest
  | c :: rest => if '1' ≤ c && c ≤ '9' then some (c :: rest) else none
  | [] => none

/-- Drops a point with zeros behind it, of which there must be one. -/
def dropZeroFraction (cs : List Char) : List Char :=
  let tail := (cs.dropWhile (· != '.')).drop 1
  if !tail.isEmpty && tail.all (· == '0') then cs.takeWhile (· != '.') else cs

/-- Drops underscores, which must stand between two other characters that are no underscores. -/
def dropUnderscores : List Char → Option (List Char)
  | [] => some []
  | '_' :: _ => none
  | [c] => some [c]
  | c :: '_' :: rest =>
    if rest.isEmpty then none else (dropUnderscores rest).map (c :: ·)
  | c :: rest => (dropUnderscores rest).map (c :: ·)

def bareDigits? (cs : List Char) : Option (List Char) :=
  (dropLeadingZeros cs).bind fun cs => dropUnderscores (dropZeroFraction cs)

/-- A text without what may be passed over. A minus sign stays, a plus sign goes. -/
def bareInteger? (s : String) : Option (List Char) :=
  match Text.trimBy Text.isWhite s.toList with
  | '-' :: rest => (bareDigits? rest).map ('-' :: ·)
  | '+' :: rest => bareDigits? rest
  | rest => bareDigits? rest

def plainNat? (cs : List Char) : Option Nat :=
  if cs.head? == some '0' && cs != ['0'] then none else Text.asciiNat? cs

def integerOfBare? : List Char → Option Int
  | '-' :: digits => (plainNat? digits).map fun n => -(n : Int)
  | digits => (plainNat? digits).map Int.ofNat

def bareLimit : Nat := 4300

def integerMessage : String := "Input should be a valid integer"

def integerSizeMessage : String := "Unable to parse input string as an integer, exceeded maximum size"

def fitsWord (n : Int) : Bool :=
  -9223372036854775808 ≤ n && n ≤ 9223372036854775807

def integerOfText (v : Json) (s : String) : Checked Int :=
  match bareInteger? s with
  | none => unreadable
  | some bare =>
    if bareLimit < bare.length then refuse integerSizeMessage v
    else
      match integerOfBare? bare with
      | some n => accepted n
      | none => unreadable
where
  unreadable : Checked Int := refuse (integerMessage ++ ", unable to parse string as an integer") v

def wholeFloat? (x : Float) : Option Int :=
  (Decimal.ofFloat? x).bind fun r => if r.den == 1 then some r.num else none

def integer : Check Int := fun v =>
  match v with
  | .int n => accepted n
  | .bool b => accepted (if b then 1 else 0)
  | .float x =>
    if !x.isFinite then refuse "Input should be a finite number" v
    else
      match wholeFloat? x with
      | some n =>
        if fitsWord n && n != -9223372036854775808 then accepted n else refuse integerSizeMessage v
      | none => refuse (integerMessage ++ ", got a number with a fractional part") v
  | .str s => integerOfText v s
  | .surrogates _ => integerOfText.unreadable v
  | _ => refuse integerMessage v

def positive : Check Int := fun v =>
  (integer v).andThen fun n =>
    if n < 1 then refuse "Input should be greater than or equal to 1" v else accepted n

/-! ## Truth values -/

def noWords : List String := ["0", "off", "f", "false", "n", "no"]

def yesWords : List String := ["1", "on", "t", "true", "y", "yes"]

def flagOfText? (s : String) : Option Bool :=
  let word := String.ofList (s.toList.map Char.toLower)
  if noWords.contains word then some false
  else if yesWords.contains word then some true
  else none

def flagMessage : String := "Input should be a valid boolean"

def flagOfInt (v : Json) (n : Int) : Checked Bool :=
  if n == 0 then accepted false
  else if n == 1 then accepted true
  else if fitsWord n then refuse (flagMessage ++ ", unable to interpret input") v
  else refuse flagMessage v

def flag : Check Bool := fun v =>
  match v with
  | .bool b => accepted b
  | .int n => flagOfInt v n
  | .float x =>
    match wholeFloat? x with
    | some n => flagOfInt v n
    | none => refuse flagMessage v
  | .str s =>
    match flagOfText? s with
    | some b => accepted b
    | none => refuse (flagMessage ++ ", unable to interpret input") v
  | .surrogates _ => refuse (flagMessage ++ ", unable to interpret input") v
  | _ => refuse flagMessage v

end KeepApart.Schema
