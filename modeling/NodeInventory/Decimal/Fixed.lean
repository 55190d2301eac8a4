import NodeInventory.Decimal.Rounding

/-!
# Decimals with a fixed number of places

A rational written with a given number of places after the point, a tie going to the even
neighbour.
-/

namespace NodeInventory

/-- Pads a digit string on the left with zeros up to a width. -/
def padZeros (width : Nat) (digits : List Char) : List Char :=
  List.replicate (width - digits.length) '0' ++ digits

/-- A natural number with at least `width` digits. -/
def paddedNat (width n : Nat) : String := String.ofList (padZeros width (Nat.toDigits 10 n))

/-- Digits after a point; none of it without digits, unless the point is kept. -/
def pointed (keepPoint : Bool) (digits : List Char) : List Char :=
  if digits.isEmpty && !keepPoint then [] else '.' :: digits

/-- A magnitude with `places` digits after the point. -/
def fixedDigits (keepPoint : Bool) (places : Nat) (magnitude : Rat) : List Char :=
  let scaled := (halfEven (magnitude * powInt 10 places)).toNat
  let digits := padZeros (places + 1) (Nat.toDigits 10 scaled)
  digits.take (digits.length - places) ++
    pointed keepPoint (digits.drop (digits.length - places))

/-- `q` with `places` digits after the point. -/
def fixedText (places : Nat) (q : Rat) : String :=
  String.ofList ((if q < 0 then ['-'] else []) ++ fixedDigits false places q.abs)

end NodeInventory
