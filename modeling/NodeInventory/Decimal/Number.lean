import NodeInventory.Decimal.Rounding

/-!
# Numbers with infinities

What a numeric value denotes: an exact rational under a sign, an infinity, or no number at all.
The sign stays apart from the magnitude, so that a negative zero is its own datum.
-/

namespace NodeInventory

/-- An extended rational. -/
inductive Number where
  | nan
  | infinite (negative : Bool)
  | finite (negative : Bool) (magnitude : Rat)
  deriving DecidableEq, Repr, Inhabited

namespace Number

/-- A whole number as it is. -/
def ofInt (n : Int) : Number := .finite (decide (n < 0)) (n.natAbs : Rat)

theorem signed_natAbs (n : Int) :
    (if decide (n < 0) then -(n.natAbs : Rat) else (n.natAbs : Rat)) = (n : Rat) := by
  cases n with
  | ofNat n => rfl
  | negSucc n =>
      rw [if_pos (decide_eq_true (Int.negSucc_lt_zero n))]
      rfl

/-- The exact value of a finite number. -/
def toRat? : Number → Option Rat
  | .finite negative m => some (if negative then -m else m)
  | _ => none

def isZero : Number → Bool
  | .finite _ m => decide (m = 0)
  | _ => false

/-- Strict order; what is not a number is below nothing and above nothing. -/
def lt : Number → Number → Bool
  | .nan, _ | _, .nan => false
  | .infinite n, .infinite n' => n && !n'
  | .infinite n, .finite .. => n
  | .finite .., .infinite n => !n
  | .finite n m, .finite n' m' =>
      decide ((if n then -m else m) < (if n' then -m' else m'))

/-- Below, or equal in value. -/
def le : Number → Number → Bool
  | .nan, _ | _, .nan => false
  | x, y => !lt y x

/-- A finite number without a fraction. -/
def whole? : Number → Option Int
  | .finite negative m =>
      if m.den = 1 then some (if negative then -m.num else m.num) else none
  | _ => none

end Number

end NodeInventory
