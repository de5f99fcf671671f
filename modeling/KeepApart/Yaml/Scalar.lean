import KeepApart.Decimal.Reading
import KeepApart.Yaml.Timestamp

/-!
# Scalars of a settings file

A scalar without quotes is a truth value, null, a number, a date or a moment, or else text (YAML 1.1).
Underscores may stand among the digits of a number. A whole number that starts with a zero is octal, and
colons separate digits to the base sixty.
-/

namespace KeepApart.Yaml

def truths : List (String × Bool) :=
  [("yes", true), ("Yes", true), ("YES", true), ("no", false), ("No", false), ("NO", false),
   ("true", true), ("True", true), ("TRUE", true), ("false", false), ("False", false),
   ("FALSE", false), ("on", true), ("On", true), ("ON", true), ("off", false), ("Off", false),
   ("OFF", false)]

def nulls : List String := ["", "~", "null", "Null", "NULL"]

def withoutUnderscores (cs : List Char) : List Char :=
  cs.filter (· != '_')

/-- Splits off a sign; the flag tells whether it is a minus. -/
def splitSign : List Char → Bool × List Char
  | '-' :: cs => (true, cs)
  | '+' :: cs => (false, cs)
  | cs => (false, cs)

def isDigitPart (c : Char) : Bool :=
  Json.isAsciiDigit c || c == '_'

def isSixtieth (cs : List Char) : Bool :=
  !cs.isEmpty && cs.length ≤ 2 && (digits? 10 cs).any (· < 60)

def sixties (first : Nat) (others : List Nat) : Nat :=
  others.foldl (fun n d => n * 60 + d) first

/-! ## Whole numbers -/

/-- The value of a number with too many digits is not computed. -/
def limited (cs : List Char) : Except Trouble Nat :=
  if Json.digitLimit < cs.length then .error (.fault (.longInteger cs.length))
  else .ok (Json.digitsValue cs)

/-- Digits behind the mark of a base; of underscores alone there are none. -/
def based (base : Nat) (cs : List Char) : Except Trouble Nat :=
  match digits? base (withoutUnderscores cs) with
  | some n => .ok n
  | none =>
    .error (.fault (.badText ("invalid literal for int() with base " ++ toString base ++ ": ''")))

def natural? (cs : List Char) : Option (Except Trouble Nat) :=
  let holds (p : Char → Bool) (ds : List Char) : Bool := !ds.isEmpty && ds.all fun c => c == '_' || p c
  match cs with
  | [] => none
  | '0' :: 'b' :: ds => if holds (fun c => c == '0' || c == '1') ds then some (based 2 ds) else none
  | '0' :: 'x' :: ds => if holds (fun c => (Json.hexValue? c).isSome) ds then some (based 16 ds) else none
  | ['0'] => some (.ok 0)
  | '0' :: ds =>
    if holds (fun c => '0' ≤ c && c ≤ '7') ds then some (based 8 ('0' :: ds)) else none
  | c :: _ =>
    match cs.splitOn ':' with
    | first :: others =>
      if Json.isAsciiDigit c && first.all isDigitPart && others.all isSixtieth then
        some ((limited (withoutUnderscores first)).map fun n =>
          sixties n (others.map Json.digitsValue))
      else none
    | [] => none

/-! ## Numbers with a point -/

def exponent? : List Char → Option Int
  | [] => some 0
  | m :: s :: ds =>
    if (m == 'e' || m == 'E') && (s == '-' || s == '+') then
      (digits? 10 ds).map fun n => if s == '-' then -(n : Int) else n
    else none
  | _ => none

def fraction? (cs : List Char) : Option Float := do
  let whole := cs.takeWhile isDigitPart
  match cs.dropWhile isDigitPart with
  | '.' :: rest =>
    let part := rest.takeWhile isDigitPart
    if whole.head? == some '_' || (whole.isEmpty && !part.head?.any Json.isAsciiDigit) then none
    else
      let e ← exponent? (rest.dropWhile isDigitPart)
      let whole := withoutUnderscores whole
      let part := withoutUnderscores part
      some (Decimal.floatOf (Json.digitsValue (whole ++ part)) (e - (part.length : Int)))
  | _ => none

/-- A double for each piece, the last of which has a point. The one that counts least is added first. -/
def sixtiesFloat (pieces : List Float) : Float :=
  (pieces.reverse.zipIdx.foldl
    (fun sum (d, n) => sum + d * Float.ofNat (Nat.pow 60 n)) 0)

def sixtiesFraction? (cs : List Char) : Option Float := do
  let first :: others := cs.splitOn ':' | none
  let last ← others.getLast?
  let middle := others.dropLast
  let whole := last.takeWhile Json.isAsciiDigit
  match last.dropWhile Json.isAsciiDigit with
  | '.' :: part =>
    if first.head?.any Json.isAsciiDigit && first.all isDigitPart && middle.all isSixtieth
        && isSixtieth whole && part.all isDigitPart then
      let float (cs : List Char) : Float := Decimal.floatOf (Json.digitsValue (withoutUnderscores cs)) 0
      let part := withoutUnderscores part
      let tail := Decimal.floatOf (Json.digitsValue (whole ++ part)) (-(part.length : Int))
      some (sixtiesFloat ((first :: middle).map float ++ [tail]))
    else none
  | _ => none

def infinities : List String := [".inf", ".Inf", ".INF"]

def notNumbers : List String := [".nan", ".NaN", ".NAN"]

/-- The value of a number; none for a text that is no number. One that starts with its point has no
sign. -/
def number? (cs : List Char) : Option (Except Trouble Value) :=
  let (negative, body) := splitSign cs
  match natural? body with
  | some n => some (n.map fun n => .int (if negative then -(n : Int) else n))
  | none =>
    let float (x : Float) : Except Trouble Value := .ok (.float (if negative then -x else x))
    if infinities.contains (String.ofList body) then some (float (1.0 / 0.0))
    else if notNumbers.contains (String.ofList cs) then some (.ok (.float (0.0 / 0.0)))
    else if body.head? == some '.' && body.length < cs.length then none
    else ((fraction? body).or (sixtiesFraction? body)).map float

/-- The sign of equality and the sign of a merge stand for no value by themselves. -/
def signs : List String := ["=", "<<"]

def plain (cs : List Char) : Except Trouble Value :=
  let s := String.ofList cs
  if nulls.contains s then .ok .null
  else if signs.contains s then .error .malformed
  else
    match truths.find? fun t => t.1 == s with
    | some t => .ok (.bool t.2)
    | none =>
      match number? cs, Timestamp.readPlain cs with
      | some r, _ => r
      | none, some stamp => Timestamp.valueOf stamp
      | none, none => .ok (.str s)

end KeepApart.Yaml
