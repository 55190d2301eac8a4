import NodeInventory.Decimal.Fixed
import NodeInventory.Decimal.Shortest

/-!
# Decimals with a number of significant digits

A magnitude of the binary64 format rounded to some significant digits, a tie going to the even
neighbour, and written with an exponent or, where that is short, without one.
-/

namespace NodeInventory

/-- The `count` significant digits of a magnitude, and the exponent of the first one. -/
def significantDigits (count : Nat) (magnitude : Rat) : List Char × Int :=
  if magnitude = 0 then (List.replicate count '0', 0)
  else
    let exponent := Binary64.decade magnitude
    let n := (halfEven (magnitude / powInt 10 (exponent - count + 1))).toNat
    if Nat.pow 10 count ≤ n then (Nat.toDigits 10 (n / 10), exponent + 1)
    else (Nat.toDigits 10 n, exponent)

/-- Digits with the point after the first one, and an exponent of a sign and two digits or more. -/
def withExponent (keepPoint : Bool) (digits : List Char) (exponent : Int) : List Char :=
  digits.take 1 ++ pointed keepPoint (digits.drop 1) ++
    'e' :: (if exponent < 0 then '-' else '+') :: padZeros 2 (Nat.toDigits 10 exponent.natAbs)

/-- A magnitude with an exponent and `places` digits after the point. -/
def scientificDigits (keepPoint : Bool) (places : Nat) (magnitude : Rat) : List Char :=
  let (digits, exponent) := significantDigits (places + 1) magnitude
  withExponent keepPoint digits exponent

/-- The least exponent that is written by zeros in front of the digits. -/
def leastPlainExponent : Int := -4

/-- A magnitude with `count` significant digits, without an exponent where there are enough digits
for it.  Zeros at the end are dropped unless the point is kept. -/
def generalDigits (keepPoint : Bool) (count : Nat) (magnitude : Rat) : List Char :=
  let count := max count 1
  let (all, exponent) := significantDigits count magnitude
  let digits :=
    if keepPoint then all
    else all.take 1 ++ ((all.drop 1).reverse.dropWhile (· = '0')).reverse
  if leastPlainExponent ≤ exponent ∧ exponent < count then
    if exponent < 0 then '0' :: '.' :: (List.replicate (-exponent - 1).toNat '0' ++ digits)
    else
      let whole := exponent.toNat + 1
      digits.take whole ++ List.replicate (whole - digits.length) '0' ++
        pointed keepPoint (digits.drop whole)
  else withExponent keepPoint digits exponent

end NodeInventory
