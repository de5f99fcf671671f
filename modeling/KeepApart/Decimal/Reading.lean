/-!
# Decimals as doubles

The double nearest to `mantissa * 10 ^ exponent`. Exponents far outside the range of doubles are
answered at once, so that no huge power is computed.
-/

namespace KeepApart.Decimal

/-- The double nearest to `mantissa * 10 ^ exponent`. -/
def floatOf (mantissa : Nat) (exponent : Int) : Float :=
  let lead := exponent + (Nat.toDigits 10 mantissa).length
  if mantissa == 0 || lead < -400 then 0
  else if 400 < lead then 1.0 / 0.0
  else Float.ofScientific mantissa (exponent < 0) exponent.natAbs

end KeepApart.Decimal
