/-!
# Binary floating point as exact numbers

A finite double is `m * 2 ^ q`. Measurements and thresholds are compared, added and printed as exact
rational numbers; `round53` is the one place where a result is rounded to a double.
-/

namespace KeepApart.Decimal

/-- The size of a finite double, `significand * 2 ^ exponent`. -/
structure Binary where
  significand : Nat
  exponent : Int
  /-- The gap to the value below is half the gap to the value above. -/
  narrowBelow : Bool

/-- The size of the double with these bits, which must not be those of an infinity or a NaN. -/
def Binary.ofBits (b : UInt64) : Binary :=
  let e := ((b >>> 52) &&& 0x7FF).toNat
  let f := (b &&& 0xFFFFFFFFFFFFF).toNat
  if e == 0 then ⟨f, -1074, false⟩ else ⟨Nat.pow 2 52 + f, (e : Int) - 1075, f == 0 && e > 1⟩

def pow2 (e : Int) : Rat :=
  if 0 ≤ e then (Nat.pow 2 e.toNat : Rat) else 1 / (Nat.pow 2 (-e).toNat : Rat)

def pow10 (e : Int) : Rat :=
  if 0 ≤ e then (Nat.pow 10 e.toNat : Rat) else 1 / (Nat.pow 10 (-e).toNat : Rat)

def Binary.toRat (x : Binary) : Rat :=
  (x.significand : Rat) * pow2 x.exponent

def signBit (x : Float) : Bool :=
  x.toBits >>> 63 == 1

def ofFloat? (x : Float) : Option Rat :=
  if x.isFinite then
    let size := (Binary.ofBits x.toBits).toRat
    some (if signBit x then -size else size)
  else none

def roundHalfEven (x : Rat) : Int :=
  let low := x.floor
  let rest := x - (low : Rat)
  if rest < 1 / 2 then low
  else if 1 / 2 < rest then low + 1
  else if low % 2 == 0 then low else low + 1

/-- The largest `e` with `2 ^ e ≤ x`, for a positive `x`. -/
def floorLog2 (x : Rat) : Int :=
  let guess := (x.num.natAbs.log2 : Int) - (x.den.log2 : Int)
  if pow2 guess ≤ x then guess else guess - 1

/-- The double nearest to a number, a half going to the even neighbour. -/
def round53 (x : Rat) : Rat :=
  if x == 0 then 0
  else
    let size := if x < 0 then -x else x
    let unit := pow2 (max (floorLog2 size - 52) (-1074))
    (roundHalfEven (x / unit) : Rat) * unit

/-- A number as a double: exact for every number that `round53` leaves alone. -/
def toFloat (x : Rat) : Float :=
  let size := if x < 0 then -x else x
  if size == 0 then 0
  else
    let e := max (floorLog2 size - 52) (-1074)
    let m := (roundHalfEven (size / pow2 e)).toNat
    let f := Float.scaleB (Float.ofNat m) e
    if x < 0 then -f else f

end KeepApart.Decimal
