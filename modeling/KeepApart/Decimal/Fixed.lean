import KeepApart.Decimal.Binary

/-!
# A fixed number of places

The exact value is rounded, a half going to the even neighbour.
-/

namespace KeepApart.Decimal

def roundPlaces (places : Nat) (x : Rat) : Rat :=
  (roundHalfEven (x * pow10 places) : Rat) * pow10 (-(places : Int))

def fixed (places : Nat) (x : Rat) : String :=
  let units := roundHalfEven (x * pow10 places)
  let digits := (Nat.toDigits 10 units.natAbs).leftpad (places + 1) '0'
  let whole := digits.take (digits.length - places)
  let part := digits.drop (digits.length - places)
  let sign := if x < 0 then "-" else ""
  let point := if places == 0 then "" else "."
  sign ++ String.ofList whole ++ point ++ String.ofList part

end KeepApart.Decimal
