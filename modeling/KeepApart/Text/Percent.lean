import KeepApart.Text.Quoted
import KeepApart.Text.Split
import KeepApart.Text.Utf8

/-!
# Percent-encoded text

Octets that may not stand in an address are written as a percent sign and two hexadecimal digits.
-/

namespace KeepApart.Text

def hexDigitValue? (c : Char) : Option Nat :=
  if '0' ≤ c ∧ c ≤ '9' then some (c.toNat - 48)
  else if 'a' ≤ c ∧ c ≤ 'f' then some (c.toNat - 87)
  else if 'A' ≤ c ∧ c ≤ 'F' then some (c.toNat - 55)
  else none

def hexOctet? (high low : Char) : Option UInt8 := do
  let h ← hexDigitValue? high
  let l ← hexDigitValue? low
  return UInt8.ofNat (h * 16 + l)

/-- Decodes what comes behind some octets, which are held back in reverse until the run of ASCII that
they belong to ends. A percent sign without two digits stands for itself. -/
def percentDecodeBehind (held : List UInt8) : List Char → List Char
  | [] => Utf8.decode held.reverse
  | '%' :: h :: l :: rest =>
    match hexOctet? h l with
    | some b => percentDecodeBehind (b :: held) rest
    | none => percentDecodeBehind (0x25 :: held) (h :: l :: rest)
  | c :: rest =>
    if c.toNat < 0x80 then percentDecodeBehind (UInt8.ofNat c.toNat :: held) rest
    else Utf8.decode held.reverse ++ c :: percentDecodeBehind [] rest
termination_by cs => cs.length

def percentDecode (s : String) : String :=
  String.ofList (percentDecodeBehind [] s.toList)

def encodeLonePercents : List Char → List Char
  | [] => []
  | '%' :: h :: l :: rest =>
    if (hexOctet? h l).isSome then '%' :: h :: l :: encodeLonePercents rest
    else '%' :: '2' :: '5' :: encodeLonePercents (h :: l :: rest)
  | c :: rest =>
    if c == '%' then '%' :: '2' :: '5' :: encodeLonePercents rest
    else c :: encodeLonePercents rest
termination_by cs => cs.length

def capitalHexDigit (d : Nat) : Char :=
  if d < 10 then Char.ofNat (48 + d) else Char.ofNat (55 + d)

/-- Encodes every octet that is neither a letter, a digit, one of `_.-~` nor one of the others. -/
def percentEncode (others : List Char) (s : String) : String :=
  String.ofList (s.toUTF8.toList.flatMap fun b =>
    let c := Char.ofNat b.toNat
    if b < 0x80 && (c.isAlphanum || "_.-~".toList.contains c || others.contains c) then [c]
    else ['%', capitalHexDigit (b.toNat / 16), capitalHexDigit (b.toNat % 16)])

/-- Encodes a text as part of a form, where a plus sign stands for a space. -/
def formEncode (s : String) : String :=
  "+".intercalate ((splitOn ' ' s).map (percentEncode []))

def formDecode (s : String) : String :=
  percentDecode (" ".intercalate (splitOn '+' s))

end KeepApart.Text
