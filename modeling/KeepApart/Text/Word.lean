import KeepApart.Text.DecimalDigit
import KeepApart.Text.Printable

/-!
# Characters of words

Words are made of letters, digits and underscores of any script. Signs, marks and unprintable characters
end them.
-/

namespace KeepApart.Text

def signRanges : List (Nat × Nat) :=
  [(0xA1, 0xA9), (0xAB, 0xB1), (0xB4, 0xB4), (0xB6, 0xB8), (0xBB, 0xBB), (0xBF, 0xBF), (0xD7, 0xD7),
   (0xF7, 0xF7), (0x2C2, 0x2C5), (0x2D2, 0x2DF), (0x300, 0x36F), (0x483, 0x489), (0x2010, 0x205E),
   (0x207A, 0x207E), (0x208A, 0x208E), (0x20A0, 0x20F0), (0x2190, 0x245F), (0x249C, 0x24E9),
   (0x2500, 0x2775), (0x2794, 0x2BFF), (0x3001, 0x3004), (0x3008, 0x3020), (0x302A, 0x3030),
   (0xFE10, 0xFE6F), (0xFF01, 0xFF0F), (0xFF1A, 0xFF20), (0xFF3B, 0xFF40), (0xFF5B, 0xFF65),
   (0x1F10D, 0x1FAFF)]

def isWordChar (c : Char) : Bool :=
  if c.toNat < 0x80 then c.isAlphanum || c == '_'
  else isPrintable c && !inRanges signRanges c.toNat

end KeepApart.Text
