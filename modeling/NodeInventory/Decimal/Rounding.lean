/-!
# Rounding an exact quotient

Whole-number rounding of rationals, with a tie going to the even neighbour, and powers of a
base with a signed exponent.
-/

namespace NodeInventory

/-- `base ^ exponent` for an exponent of either sign. -/
def powInt (base : Nat) : Int → Rat
  | .ofNat n => (Nat.pow base n : Rat)
  | .negSucc n => 1 / (Nat.pow base (n + 1) : Rat)

/-- The whole number nearest to `q`; halfway between two, the even one. -/
def halfEven (q : Rat) : Int :=
  let below := q.floor
  let excess := q - below
  if excess < 1 / 2 then below
  else if 1 / 2 < excess then below + 1
  else if below % 2 = 0 then below
  else below + 1

end NodeInventory
