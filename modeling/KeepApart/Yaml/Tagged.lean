import KeepApart.Text.Numeral
import KeepApart.Yaml.Scalar

/-!
# Scalars with a tag

A tag says what a scalar stands for, whatever its form. Numbers are read more freely than without a tag:
with white space around them and digits of any script, and a double needs no point.
-/

namespace KeepApart.Yaml

def commonTag (kind : String) : String :=
  "tag:yaml.org,2002:" ++ kind

/-! ## Whole numbers -/

/-- The value of a digit of any script, or of a letter behind the nine. -/
def digitBelow? (base : Nat) (c : Char) : Option Nat :=
  ((Text.decimalDigit? c).or (Json.hexValue? c)).filter (· < base)

def dropBaseMark (base : Nat) : List Char → List Char
  | '0' :: m :: cs =>
    if (base == 2 && (m == 'b' || m == 'B')) || (base == 8 && (m == 'o' || m == 'O'))
        || (base == 16 && (m == 'x' || m == 'X')) then cs
    else '0' :: m :: cs
  | cs => cs

def integerTo? (base : Nat) (cs : List Char) : Option Int :=
  let (negative, body) := splitSign (Text.trimBy Text.isWhite cs)
  let digits := dropBaseMark base body
  if digits.isEmpty then none
  else
    let value := digits.foldlM (fun n c => (digitBelow? base c).map fun d => n * base + d) 0
    value.map fun n => if negative then -(n : Int) else n

def integerTo (base : Nat) (cs : List Char) : Except Trouble Int :=
  match integerTo? base cs with
  | some n => .ok n
  | none =>
    .error (.fault (.badText ("invalid literal for int() with base " ++ toString base ++ ": "
      ++ Text.quote (String.ofList cs))))

def decimalInteger (cs : List Char) : Except Trouble Int :=
  match Text.integer (String.ofList cs) with
  | .ok n => .ok n
  | .error .malformed => .error (.fault (.badInteger (String.ofList cs)))
  | .error (.tooLong digits) => .error (.fault (.longInteger digits))

/-- The value of a text of which nothing is left is not asked for. -/
def requireText (cs : List Char) : Except Trouble Unit :=
  if cs.isEmpty then .error (.fault .missingKey) else .ok ()

def wholeNumber (cs : List Char) : Except Trouble Int := do
  let text := withoutUnderscores cs
  requireText text
  let (negative, body) := splitSign text
  requireText body
  let size ← match body with
    | ['0'] => .ok 0
    | '0' :: 'b' :: ds => integerTo 2 ds
    | '0' :: 'x' :: ds => integerTo 16 ds
    | '0' :: _ => integerTo 8 body
    | _ => (body.splitOn ':').foldlM (fun n part => (decimalInteger part).map (n * 60 + ·)) 0
  return if negative then -size else size

/-! ## Numbers with a point -/

def plainDigits (cs : List Char) : List Char :=
  cs.map fun c => ((Text.decimalDigit? c).map fun d => Char.ofNat ('0'.toNat + d)).getD c

def freeExponent? : List Char → Option Int
  | [] => some 0
  | m :: rest =>
    let (negative, ds) := splitSign rest
    if m == 'e' || m == 'E' then
      if ds.all Json.isAsciiDigit then (digits? 10 ds).map fun n => if negative then -(n : Int) else n
      else none
    else none

def freeSize? (cs : List Char) : Option Float := do
  let whole := cs.takeWhile Json.isAsciiDigit
  let rest := cs.dropWhile Json.isAsciiDigit
  let behindPoint := if rest.head? == some '.' then rest.drop 1 else []
  let part := behindPoint.takeWhile Json.isAsciiDigit
  let tail := if rest.head? == some '.' then behindPoint.dropWhile Json.isAsciiDigit else rest
  if whole.isEmpty && part.isEmpty then none
  else
    let e ← freeExponent? tail
    some (Decimal.floatOf (Json.digitsValue (whole ++ part)) (e - (part.length : Int)))

def freeFloat? (cs : List Char) : Option Float :=
  let (negative, body) := splitSign (plainDigits (Text.trimBy Text.isWhite cs))
  let word := String.ofList body
  let size? :=
    if word == "inf" || word == "infinity" then some (1.0 / 0.0)
    else if word == "nan" then some (0.0 / 0.0)
    else freeSize? body
  size?.map fun x => if negative then -x else x

def freeFloat (cs : List Char) : Except Trouble Float :=
  match freeFloat? cs with
  | some x => .ok x
  | none =>
    .error (.fault (.badText ("could not convert string to float: "
      ++ Text.quote (String.ofList cs))))

def double (cs : List Char) : Except Trouble Float := do
  let text := (withoutUnderscores cs).map Char.toLower
  requireText text
  let (negative, body) := splitSign text
  let sign (x : Float) : Float := if negative then -x else x
  if body == ".inf".toList then return sign (1.0 / 0.0)
  else if body == ".nan".toList then return 0.0 / 0.0
  else if body.contains ':' then
    return sign (sixtiesFloat (← (body.splitOn ':').mapM freeFloat))
  else return sign (← freeFloat body)

/-! ## Octets -/

def sextet? (c : Char) : Option Nat :=
  if 'A' ≤ c ∧ c ≤ 'Z' then some (c.toNat - 'A'.toNat)
  else if 'a' ≤ c ∧ c ≤ 'z' then some (c.toNat - 'a'.toNat + 26)
  else if '0' ≤ c ∧ c ≤ '9' then some (c.toNat - '0'.toNat + 52)
  else if c == '+' then some 62
  else if c == '/' then some 63
  else none

/-- The octets of a text to the base 64, of which `place` digits of a group of four have been read;
`left` are the bits that no octet has yet, and `pads` signs of padding came last. Padding that completes a
group ends the text, and any other character is passed over. -/
def octetsOf? (place left pads : Nat) : List Char → Option (List UInt8)
  | [] => if place == 0 then some [] else none
  | c :: rest =>
    if c == '=' then
      if place < 2 then octetsOf? place left pads rest
      else if 4 ≤ place + pads + 1 then some []
      else octetsOf? place left (pads + 1) rest
    else
      match sextet? c, place with
      | none, _ => octetsOf? place left pads rest
      | some d, 0 => octetsOf? 1 d 0 rest
      | some d, 1 => (octetsOf? 2 (d % 16) 0 rest).map (UInt8.ofNat (left * 4 + d / 16) :: ·)
      | some d, 2 => (octetsOf? 3 (d % 4) 0 rest).map (UInt8.ofNat (left * 16 + d / 4) :: ·)
      | some d, _ => (octetsOf? 0 0 0 rest).map (UInt8.ofNat (left * 64 + d) :: ·)

/-! ## All tags -/

def truth (cs : List Char) : Except Trouble Bool :=
  match truths.find? fun t => t.1 == (String.ofList cs).toLower with
  | some t => .ok t.2
  | none => .error (.fault .missingKey)

/-- One line feed at the end does not count. -/
def moment (cs : List Char) : Except Trouble Value :=
  let body := if cs.getLast? == some '\n' then cs.dropLast else cs
  match Timestamp.read body with
  | some stamp => Timestamp.valueOf stamp
  | none => .error (.fault .wrongShape)

def tagged (tag : String) (codes : List Nat) : Except Trouble Value :=
  let cs := codes.map Char.ofNat
  if tag == commonTag "str" then .ok (.ofCodes codes)
  else if tag == commonTag "null" then .ok .null
  else if tag == commonTag "bool" then (truth cs).map .bool
  else if tag == commonTag "int" then (wholeNumber cs).map .int
  else if tag == commonTag "float" then (double cs).map .float
  else if tag == commonTag "timestamp" then moment cs
  else if tag == commonTag "binary" then
    if codes.any (0x80 ≤ ·) then .error .malformed
    else
      match octetsOf? 0 0 0 cs with
      | some bytes => .ok (.octets bytes)
      | none => .error .malformed
  else .error .malformed

end KeepApart.Yaml
