import KeepApart.Decimal.Binary

/-!
# Decimals for doubles

Among the decimals that round to a given double, the one with the fewest digits is taken, and of
several the nearest; or else a fixed number of digits. `Layout` holds the decisions on how a decimal is
written down.
-/

namespace KeepApart.Decimal

structure Scientific where
  digits : Nat
  exponent : Int
  deriving Repr, DecidableEq

def Scientific.toRat (d : Scientific) : Rat :=
  (d.digits : Rat) * pow10 d.exponent

def Binary.lower (x : Binary) : Rat :=
  ((if x.narrowBelow then 4 * x.significand - 1 else 4 * x.significand - 2 : Nat) : Rat)
    * pow2 (x.exponent - 2)

def Binary.upper (x : Binary) : Rat :=
  ((4 * x.significand + 2 : Nat) : Rat) * pow2 (x.exponent - 2)

/-- Does the number round to `x`? The ends belong to it when the significand is even. -/
def Binary.readsBack (x : Binary) (v : Rat) : Bool :=
  if x.significand % 2 == 0 then x.lower ≤ v && v ≤ x.upper else x.lower < v && v < x.upper

/-- The least `k` with `v < 10 ^ k`, for a positive `v`. -/
def decimalScale (v : Rat) : Int :=
  let guess := ((Nat.toDigits 10 v.num.natAbs).length : Int) - ((Nat.toDigits 10 v.den).length : Int)
  if v < pow10 guess then guess else guess + 1

/-- The candidate with grid `10 ^ e` that rounds to `x`, the nearer of two, the even one of a tie. -/
def candidate? (x : Binary) (v : Rat) (e : Int) : Option Scientific :=
  let low := (v / pow10 e).floor.toNat
  let below : Scientific := ⟨low, e⟩
  let above : Scientific := ⟨low + 1, e⟩
  match x.readsBack below.toRat, x.readsBack above.toRat with
  | false, false => none
  | true, false => some below
  | false, true => some above
  | true, true =>
    let middle := below.toRat + above.toRat
    if 2 * v < middle then some below
    else if middle < 2 * v then some above
    else some (if low % 2 == 0 then below else above)

def stripZeros : Nat → Scientific → Scientific
  | 0, d => d
  | fuel + 1, d =>
    if d.digits % 10 == 0 && d.digits != 0 then stripZeros fuel ⟨d.digits / 10, d.exponent + 1⟩ else d

/-- A positive number rounded to a number of digits, a half going up. -/
def significant (count : Nat) (v : Rat) : Scientific :=
  let e := decimalScale v - count
  stripZeros (count + 1) ⟨(v / pow10 e + 1 / 2).floor.toNat, e⟩

def shortest (x : Binary) : Scientific :=
  let v := x.toRat
  let k := decimalScale v
  let found := (List.range 17).findSome? fun (n : Nat) => candidate? x v (k - ((n : Int) + 1))
  match found with
  | some d => stripZeros 20 d
  | none => ⟨(v / pow10 (k - 17)).floor.toNat, k - 17⟩

structure Layout where
  /-- The least exponent of the leading digit that is written positionally. -/
  plainFrom : Int
  /-- The first exponent of the leading digit that no longer is. -/
  plainBelow : Int
  /-- The least number of digits of an exponent. -/
  exponentWidth : Nat
  /-- Is a zero put behind the point when an exponent follows a single digit? -/
  keepsPoint : Bool := false
  nan : String
  infinity : String

def Layout.exponentText (l : Layout) (e : Int) : String :=
  let digits := (Nat.toDigits 10 e.natAbs).leftpad l.exponentWidth '0'
  (if e < 0 then "-" else "+") ++ String.ofList digits

/-- A positive decimal; a whole number keeps one zero after the point. -/
def Layout.decimal (l : Layout) (d : Scientific) : String :=
  let digits := Nat.toDigits 10 d.digits
  let count : Int := digits.length
  let lead := d.exponent + count - 1
  if l.plainFrom ≤ lead && lead < l.plainBelow then
    if 0 ≤ d.exponent then
      String.ofList (digits ++ List.replicate d.exponent.toNat '0') ++ ".0"
    else if lead < 0 then
      "0." ++ String.ofList (List.replicate (-lead - 1).toNat '0' ++ digits)
    else
      let whole := (lead + 1).toNat
      String.ofList (digits.take whole) ++ "." ++ String.ofList (digits.drop whole)
  else
    let tail := digits.drop 1
    let fraction :=
      if tail.isEmpty then (if l.keepsPoint then ".0" else "") else "." ++ String.ofList tail
    String.ofList (digits.take 1) ++ fraction ++ "e" ++ l.exponentText lead

def Layout.float (l : Layout) (x : Float) : String :=
  let sign := if signBit x then "-" else ""
  if x.isNaN then l.nan
  else if x.isInf then sign ++ l.infinity
  else if x == 0 then sign ++ "0.0"
  else sign ++ l.decimal (shortest (Binary.ofBits x.toBits))

end KeepApart.Decimal
