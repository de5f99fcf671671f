/-!
# Encodings of Unicode

A text may come in units of one, two or four octets. Its first octets tell which: a text that starts with
an ASCII character has zeros beside it where the units are larger. Units of one octet are UTF-8.
-/

namespace KeepApart.Text

/-- The size of the units of a text, and their order where it matters. -/
inductive Encoding where
  | single
  | double (bigEndian : Bool)
  | quadruple (bigEndian : Bool)
  deriving DecidableEq, Repr

namespace Encoding

def detect : List UInt8 → Encoding
  | [0, _] => double true
  | [_, 0] => double false
  | 0 :: b :: _ :: _ :: _ => if b == 0 then quadruple true else double true
  | _ :: 0 :: c :: d :: _ => if c == 0 && d == 0 then quadruple false else double false
  | _ => single

def value (octets : List UInt8) : Nat :=
  octets.foldl (fun n b => n * 256 + b.toNat) 0

def unit (bigEndian : Bool) (octets : List UInt8) : Nat :=
  value (if bigEndian then octets else octets.reverse)

def pairs? (bigEndian : Bool) : List UInt8 → Option (List Nat)
  | [] => some []
  | a :: b :: rest => (pairs? bigEndian rest).map (unit bigEndian [a, b] :: ·)
  | _ => none

def quadruples? (bigEndian : Bool) : List UInt8 → Option (List Nat)
  | [] => some []
  | a :: b :: c :: d :: rest => (quadruples? bigEndian rest).map (unit bigEndian [a, b, c, d] :: ·)
  | _ => none

/-- The character of a code point; half of a surrogate pair is U+FFFD. -/
def char (code : Nat) : Char :=
  if 0xD800 ≤ code && code ≤ 0xDFFF then '\uFFFD' else Char.ofNat code

def joinPairs : List Nat → List Char
  | [] => []
  | [u] => [char u]
  | u :: v :: rest =>
    if 0xD800 ≤ u && u < 0xDC00 && 0xDC00 ≤ v && v < 0xE000 then
      Char.ofNat (0x10000 + (u - 0xD800) * 0x400 + (v - 0xDC00)) :: joinPairs rest
    else char u :: joinPairs (v :: rest)

/-- The text in some octets; none when they break off, name no code point or are no UTF-8. -/
def decode? (octets : List UInt8) : Option (List Char) :=
  match detect octets with
  | single => (String.fromUTF8? ⟨octets.toArray⟩).map String.toList
  | double bigEndian => (pairs? bigEndian octets).map joinPairs
  | quadruple bigEndian => do
    let units ← quadruples? bigEndian octets
    if units.all (· < 0x110000) then some (units.map char) else none

end Encoding

end KeepApart.Text
