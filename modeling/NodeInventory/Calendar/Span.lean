import NodeInventory.Decimal.Binary64
import NodeInventory.Fault

/-!
# Spans of time

A span is a whole number of microseconds of at most `dayLimit` days in magnitude.  A number of
hours or days makes a span: a whole number exactly; of any other number the whole part exactly and
the fraction by one rounded product, the sum going to the nearest microsecond, ties to the even
one.
-/

namespace NodeInventory

/-- A unit of time, in microseconds. -/
inductive TimeUnit where
  | hour | day
  deriving DecidableEq, Repr

/-- The microseconds of a unit. -/
def TimeUnit.micros : TimeUnit → Nat
  | .hour => 3600000000
  | .day => 86400000000

namespace Span

/-- The largest number of days in a span. -/
def dayLimit : Nat := 999999999

/-- A span of so many microseconds, unless it is too long. -/
def ofMicros (micros : Int) : Outcome Int :=
  if (Int.fdiv micros TimeUnit.day.micros).natAbs ≤ dayLimit then .ok micros else .error .outOfRange

/-- The microseconds of a fraction of a unit, rounded as a binary64 product. -/
def fractionMicros (unit_ : TimeUnit) (negative : Bool) (fraction : Rat) : Rat :=
  ((Binary64.ofMagnitude negative (unit_.micros * fraction)).toRat?).getD 0

/-- A span of `amount` units. -/
def ofAmount (unit_ : TimeUnit) (amount : Value) : Outcome Int :=
  match amount with
  | .bool b => ofMicros (if b then unit_.micros else 0)
  | .int n => ofMicros (n * unit_.micros)
  | .float .nan => .error .badValue
  | .float (.infinite _) => .error .outOfRange
  | .float (.finite negative m) =>
      let whole : Int := if negative then -m.floor else m.floor
      ofMicros (halfEven (((whole * unit_.micros : Int) : Rat) +
        fractionMicros unit_ negative (m - m.floor)))
  | _ => .error .wrongType

end Span

end NodeInventory
