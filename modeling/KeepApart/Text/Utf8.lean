/-!
# Octets read as UTF-8

A reader that never fails: where octets are no character, the longest run that begins one, or else a
single octet, is read as U+FFFD, and reading goes on behind it.
-/

namespace KeepApart.Text.Utf8

def replacement : Char := '\uFFFD'

/-- What the first octet of a character says: its own share of the code point, how many octets are to
follow, and between which bounds the next one lies. -/
structure Opening where
  share : Nat
  owed : Nat
  least : Nat := 0x80
  greatest : Nat := 0xBF

def opening? (b : Nat) : Option Opening :=
  if b < 0x80 then some { share := b, owed := 0 }
  else if b < 0xC2 then none
  else if b < 0xE0 then some { share := b - 0xC0, owed := 1 }
  else if b == 0xE0 then some { share := 0, owed := 2, least := 0xA0 }
  else if b == 0xED then some { share := 13, owed := 2, greatest := 0x9F }
  else if b < 0xF0 then some { share := b - 0xE0, owed := 2 }
  else if b == 0xF0 then some { share := 0, owed := 3, least := 0x90 }
  else if b < 0xF4 then some { share := b - 0xF0, owed := 3 }
  else if b == 0xF4 then some { share := 4, owed := 3, greatest := 0x8F }
  else none

/-- Reads the octets that are owed; none when one of them is missing. What is left starts at the first
octet that was not read. -/
def readOwed : (owed value least greatest : Nat) → List UInt8 → Option Nat × List UInt8
  | 0, value, _, _, rest => (some value, rest)
  | _ + 1, _, _, _, [] => (none, [])
  | owed + 1, value, least, greatest, b :: rest =>
    if least ≤ b.toNat && b.toNat ≤ greatest then
      readOwed owed (value * 64 + (b.toNat - 0x80)) 0x80 0xBF rest
    else (none, b :: rest)

theorem length_readOwed_le (owed value least greatest : Nat) (rest : List UInt8) :
    (readOwed owed value least greatest rest).2.length ≤ rest.length := by
  induction owed generalizing value least greatest rest with
  | zero => simp [readOwed]
  | succ owed ih =>
    cases rest with
    | nil => simp [readOwed]
    | cons b rest =>
      rw [readOwed]
      split
      · exact Nat.le_succ_of_le (ih ..)
      · exact Nat.le_refl _

def readChar (b : UInt8) (rest : List UInt8) : Char × List UInt8 :=
  match opening? b.toNat with
  | none => (replacement, rest)
  | some o =>
    let r := readOwed o.owed o.share o.least o.greatest rest
    ((r.1.map Char.ofNat).getD replacement, r.2)

theorem length_readChar_le (b : UInt8) (rest : List UInt8) :
    (readChar b rest).2.length ≤ rest.length := by
  unfold readChar
  split
  · exact Nat.le_refl _
  · exact length_readOwed_le ..

def decode : List UInt8 → List Char
  | [] => []
  | b :: rest => (readChar b rest).1 :: decode (readChar b rest).2
termination_by octets => octets.length
decreasing_by
  have := length_readChar_le b rest
  simp only [List.length_cons]
  omega

end KeepApart.Text.Utf8
