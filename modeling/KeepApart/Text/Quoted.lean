import KeepApart.Text.Printable

/-!
# Quoted text

A text shown inside a message stands between single quotes, or between double quotes when it holds a
single quote and no double one. The quote in use and the backslash are escaped, line feed, carriage
return and tab have a letter, and every other unprintable character is written by its code point.
-/

namespace KeepApart.Text

def hexDigit (d : Nat) : Char :=
  if d < 10 then Char.ofNat (48 + d) else Char.ofNat (87 + d)

/-- The last `width` hexadecimal digits of a number. -/
def hex : (width n : Nat) → List Char
  | 0, _ => []
  | width + 1, n => hex width (n / 16) ++ [hexDigit (n % 16)]

def quoteMark (s : List Char) : Char :=
  if s.contains '\'' && !s.contains '"' then '"' else '\''

def escapeByCode (c : Char) : List Char :=
  if c.toNat ≤ 0xFF then '\\' :: 'x' :: hex 2 c.toNat
  else if c.toNat ≤ 0xFFFF then '\\' :: 'u' :: hex 4 c.toNat
  else '\\' :: 'U' :: hex 8 c.toNat

def quoteChar (mark c : Char) : List Char :=
  if c == mark || c == '\\' then ['\\', c]
  else if c == '\n' then ['\\', 'n']
  else if c == '\r' then ['\\', 'r']
  else if c == '\t' then ['\\', 't']
  else if isPrintable c then [c]
  else escapeByCode c

def quote (s : String) : String :=
  let mark := quoteMark s.toList
  String.ofList (mark :: s.toList.flatMap (quoteChar mark) ++ [mark])

/-- Octets are quoted by the same rule, and only those of printable ASCII stand for themselves. -/
def quoteOctet (mark : Char) (b : UInt8) : List Char :=
  let c := Char.ofNat b.toNat
  if b.toNat < 0x7F then quoteChar mark c else '\\' :: 'x' :: hex 2 b.toNat

def quoteOctets (s : String) : String :=
  let mark := quoteMark s.toList
  String.ofList ('b' :: mark :: s.toUTF8.toList.flatMap (quoteOctet mark) ++ [mark])

end KeepApart.Text
