import KeepApart.Decimal.Reading
import KeepApart.Json.Display
import KeepApart.Text.DecimalDigit

/-!
# Reading JSON text

A reader takes the characters that are left and returns a value with the characters after it. When the
text goes wrong it fails with the number of characters that were left there, from which its position is
found. Numbers and nesting may have limits, and what goes too far is found in the order of the text.
Recursion is bounded by the number of characters.
-/

namespace KeepApart.Json

def isJsonBlank (c : Char) : Bool :=
  c == ' ' || c == '\t' || c == '\n' || c == '\r'

def skipBlank (cs : List Char) : List Char :=
  cs.dropWhile isJsonBlank

def hexValue? (c : Char) : Option Nat :=
  if '0' ≤ c ∧ c ≤ '9' then some (c.toNat - 48)
  else if 'a' ≤ c ∧ c ≤ 'f' then some (c.toNat - 87)
  else if 'A' ≤ c ∧ c ≤ 'F' then some (c.toNat - 55)
  else none

def unit? (a b c d : Char) : Option Nat := do
  let a ← hexValue? a
  let b ← hexValue? b
  let c ← hexValue? c
  let d ← hexValue? d
  return ((a * 16 + b) * 16 + c) * 16 + d

def isHighUnit (u : Nat) : Bool := 0xD800 ≤ u && u ≤ 0xDBFF

def isLowUnit (u : Nat) : Bool := 0xDC00 ≤ u && u ≤ 0xDFFF

def pairCode (high low : Nat) : Nat :=
  0x10000 + (high - 0xD800) * 0x400 + (low - 0xDC00)

def joinUnits : List Nat → List Nat
  | [] => []
  | [u] => [u]
  | u :: v :: rest =>
    if isHighUnit u && isLowUnit v then pairCode u v :: joinUnits rest
    else u :: joinUnits (v :: rest)

inductive ReadFault where
  /-- The text goes wrong with so many characters left. -/
  | malformed (left : Nat)
  | longInteger (digits : Nat)
  | nested
  deriving DecidableEq, Repr

def unescapeLetter? : Char → Option Char
  | '"' => some '"'
  | '\\' => some '\\'
  | '/' => some '/'
  | 'b' => some '\x08'
  | 'f' => some '\x0c'
  | 'n' => some '\n'
  | 'r' => some '\r'
  | 't' => some '\t'
  | _ => none

/-- Reads code points and escaped units up to the closing quote, after those in `seen`, which come in
reverse; `start` characters were left at the opening quote. -/
def readUnits (start : Nat) (seen : List Nat) : List Char → Except ReadFault (List Nat × List Char)
  | [] => .error (.malformed start)
  | '"' :: rest => .ok (seen.reverse, rest)
  | ['\\'] => .error (.malformed start)
  | '\\' :: 'u' :: a :: b :: c :: d :: rest =>
    match unit? a b c d with
    | none => .error (.malformed (rest.length + 5))
    | some u => if rest.isEmpty then .error (.malformed 5) else readUnits start (u :: seen) rest
  | '\\' :: c :: rest =>
    match unescapeLetter? c with
    | some l => readUnits start (l.toNat :: seen) rest
    | none => .error (.malformed (if c == 'u' then rest.length + 1 else rest.length + 2))
  | c :: rest =>
    if c.toNat < 0x20 then .error (.malformed (rest.length + 1))
    else readUnits start (c.toNat :: seen) rest

def readCodes (cs : List Char) : Except ReadFault (List Nat × List Char) := do
  let (units, rest) ← readUnits (cs.length + 1) [] cs
  return (joinUnits units, rest)

def isAsciiDigit (c : Char) : Bool :=
  '0' ≤ c && c ≤ '9'

def digitsValue (ds : List Char) : Nat :=
  ds.foldl (fun n c => n * 10 + (c.toNat - 48)) 0

/-- The digits at the start of a number. None follows a zero. -/
def leadingDigits (cs : List Char) : List Char :=
  match cs with
  | '0' :: _ => ['0']
  | _ => cs.takeWhile isAsciiDigit

def readFraction (cs : List Char) : List Char × List Char :=
  match cs with
  | '.' :: rest =>
    let ds := rest.takeWhile isAsciiDigit
    if ds.isEmpty then ([], cs) else (ds, rest.dropWhile isAsciiDigit)
  | _ => ([], cs)

def readExponent (cs : List Char) : Option Int × List Char :=
  match cs with
  | m :: rest =>
    if m == 'e' || m == 'E' then
      let negative := rest.head? == some '-'
      let body := if rest.head? == some '-' || rest.head? == some '+' then rest.drop 1 else rest
      let ds := body.takeWhile isAsciiDigit
      if ds.isEmpty then (none, cs)
      else
        let size : Int := digitsValue ds
        (some (if negative then -size else size), body.dropWhile isAsciiDigit)
    else (none, cs)
  | [] => (none, cs)

def digitLimit : Nat := 4300

def depthLimit : Nat := 945

structure Limits where
  /-- The greatest number of digits of an integer, if there is one. -/
  digits : Option Nat
  /-- How deeply lists and objects may be nested, if not without end. -/
  depth : Option Nat

namespace Limits

def standard : Limits := ⟨some digitLimit, some depthLimit⟩

def unlimited : Limits := ⟨none, none⟩

def isLong (l : Limits) (digits : Nat) : Bool :=
  l.digits.any (· < digits)

def isNested (l : Limits) (depth : Nat) : Bool :=
  l.depth.any (· ≤ depth)

end Limits

/-- Reads a number; `cs` starts at its sign or first digit. -/
def readNumber (limits : Limits) (cs : List Char) : Except ReadFault (Json × List Char) :=
  let negative := cs.head? == some '-'
  let body := if negative then cs.drop 1 else cs
  let whole := leadingDigits body
  if whole.isEmpty then .error (.malformed cs.length)
  else
    let (fraction, rest) := readFraction (body.drop whole.length)
    let (exponent, rest) := readExponent rest
    if fraction.isEmpty && exponent.isNone then
      let n : Int := digitsValue whole
      if limits.isLong whole.length then .error (.longInteger whole.length)
      else .ok (.int (if negative then -n else n), rest)
    else
      let x := Decimal.floatOf (digitsValue (whole ++ fraction))
        (exponent.getD 0 - (fraction.length : Int))
      .ok (.float (if negative then -x else x), rest)

def readWord (limits : Limits) : List Char → Except ReadFault (Json × List Char)
  | 'n' :: 'u' :: 'l' :: 'l' :: rest => .ok (.null, rest)
  | 't' :: 'r' :: 'u' :: 'e' :: rest => .ok (.bool true, rest)
  | 'f' :: 'a' :: 'l' :: 's' :: 'e' :: rest => .ok (.bool false, rest)
  | 'N' :: 'a' :: 'N' :: rest => .ok (.float (0.0 / 0.0), rest)
  | 'I' :: 'n' :: 'f' :: 'i' :: 'n' :: 'i' :: 't' :: 'y' :: rest => .ok (.float (1.0 / 0.0), rest)
  | '-' :: 'I' :: 'n' :: 'f' :: 'i' :: 'n' :: 'i' :: 't' :: 'y' :: rest =>
    .ok (.float (-1.0 / 0.0), rest)
  | cs => readNumber limits cs

mutual

/-- Reads a value that starts at once, within `depth` others. -/
def readValue (limits : Limits) : (fuel depth : Nat) → List Char → Except ReadFault (Json × List Char)
  | 0, _, cs => .error (.malformed cs.length)
  | _ + 1, _, '"' :: rest => do
    let (codes, rest) ← readCodes rest
    return (ofCodes codes, rest)
  | fuel + 1, depth, '{' :: rest =>
    if limits.isNested depth then .error .nested
    else
      match skipBlank rest with
      | '}' :: rest => .ok (.obj [], rest)
      | rest => do
        let (fields, rest) ← readFields limits fuel (depth + 1) [] rest
        return (.obj fields, rest)
  | fuel + 1, depth, '[' :: rest =>
    if limits.isNested depth then .error .nested
    else
      match skipBlank rest with
      | ']' :: rest => .ok (.arr [], rest)
      | rest => do
        let (items, rest) ← readItems limits fuel (depth + 1) [] rest
        return (.arr items, rest)
  | _ + 1, _, cs => readWord limits cs

/-- Reads items up to the closing bracket, after those in `seen`, which come in reverse. -/
def readItems (limits : Limits) : (fuel depth : Nat) → (seen : List Json) → List Char →
    Except ReadFault (List Json × List Char)
  | 0, _, _, cs => .error (.malformed cs.length)
  | fuel + 1, depth, seen, cs => do
    let (v, rest) ← readValue limits fuel depth cs
    match skipBlank rest with
    | ']' :: rest => return ((v :: seen).reverse, rest)
    | ',' :: rest => readItems limits fuel depth (v :: seen) (skipBlank rest)
    | rest => .error (.malformed rest.length)

def readFields (limits : Limits) : (fuel depth : Nat) → (seen : List (String × Json)) → List Char →
    Except ReadFault (List (String × Json) × List Char)
  | 0, _, _, cs => .error (.malformed cs.length)
  | fuel + 1, depth, seen, '"' :: cs => do
    let (codes, rest) ← readCodes cs
    match skipBlank rest with
    | ':' :: rest =>
      let (v, rest) ← readValue limits fuel depth (skipBlank rest)
      let seen := insertField seen (ofCodes codes).display v
      match skipBlank rest with
      | '}' :: rest => return (seen, rest)
      | ',' :: rest => readFields limits fuel depth seen (skipBlank rest)
      | rest => .error (.malformed rest.length)
    | rest => .error (.malformed rest.length)
  | _ + 1, _, _, cs => .error (.malformed cs.length)

end

def readWithin (limits : Limits) (cs : List Char) : Except ReadFault Json := do
  let (v, rest) ← readValue limits (cs.length + 1) 0 (skipBlank cs)
  match skipBlank rest with
  | [] => return v
  | rest => .error (.malformed rest.length)

def read (cs : List Char) : Except ReadFault Json :=
  readWithin .standard cs

def longIntegerMessage (digits : Nat) : String :=
  "Exceeds the limit (" ++ toString digitLimit ++ " digits) for integer string conversion: value has "
    ++ toString digits ++ " digits; use sys.set_int_max_str_digits() to increase the limit"

end KeepApart.Json
