import NodeInventory.Decimal.Number

/-!
# Rounding to binary64

The magnitudes that the binary64 format represents, and the nearest of them to a rational, ties
going to the even significand.  An operation of the format is the exact operation followed by one
such rounding.
-/

namespace NodeInventory.Binary64

/-- The exponent `e` with `2 ^ e ≤ q < 2 ^ (e + 1)`, for a positive `q`. -/
def binade (q : Rat) : Int :=
  let guess : Int := (q.num.natAbs.log2 : Int) - (q.den.log2 : Int)
  if q < powInt 2 guess then guess - 1 else guess

/-- The distance between neighbouring representable magnitudes around a positive `q`. -/
def spacing (q : Rat) : Rat := powInt 2 (max (binade q) (-1022) - 52)

/-- The representable magnitude nearest to `q ≥ 0`; `none` when that lies beyond the largest. -/
def nearest? (q : Rat) : Option Rat :=
  if q ≤ 0 then some 0
  else
    let rounded := (halfEven (q / spacing q) : Rat) * spacing q
    if rounded < powInt 2 1024 then some rounded else none

/-- The number nearest to a magnitude, under the given sign. -/
def ofMagnitude (negative : Bool) (q : Rat) : Number :=
  match nearest? q with
  | some m => .finite negative m
  | none => .infinite negative

/-- The number nearest to `± digits · 10 ^ exponent`.  Exponents far outside the format's range
are settled from the number of digits alone. -/
def ofDecimal (negative : Bool) (digits : Nat) (exponent : Int) : Number :=
  if digits = 0 then .finite negative 0
  else
    let places : Int := exponent + (Nat.toDigits 10 digits).length
    if 400 < places then .infinite negative
    else if places < -400 then .finite negative 0
    else ofMagnitude negative ((digits : Rat) * powInt 10 exponent)

end NodeInventory.Binary64
