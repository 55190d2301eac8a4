import NodeInventory.Decimal.Binary64

/-!
# The shortest decimal text of a binary64 number

`shortest` finds the fewest decimal digits that read back as the same number, and of those the
nearest; a `Layout` chooses where the point goes and how an exponent is written.
-/

namespace NodeInventory

namespace Binary64

/-- The exponent `k` with `10 ^ k ≤ q < 10 ^ (k + 1)`, for a magnitude of the format. -/
def decade (q : Rat) : Int :=
  let scaled := (q * powInt 10 400).floor.toNat
  ((Nat.toDigits 10 scaled).length : Int) - 1 - 400

/-- The neighbours of `q` on the grid of `count` significant digits that read back as `q`. -/
def readBack (q : Rat) (count : Nat) : List (Nat × Int) :=
  let exponent := decade q - (count : Int) + 1
  let unit := powInt 10 exponent
  let below := (q / unit).floor.toNat
  [below, below + 1].filterMap fun (n : Nat) =>
    if nearest? ((n : Rat) * unit) = some q then some (n, exponent) else none

/-- Of two neighbours the nearer one; of two equally near the even one. -/
def nearer (q : Rat) : List (Nat × Int) → Option (Nat × Int)
  | [] => none
  | [c] => some c
  | c :: c' :: _ =>
      let low := q - (c.1 : Rat) * powInt 10 c.2
      let high := (c'.1 : Rat) * powInt 10 c'.2 - q
      if low < high then some c
      else if high < low then some c'
      else if c.1 % 2 = 0 then some c else some c'

/-- The digits and exponent of the shortest decimal that reads back as the magnitude `q > 0`. -/
def shortest (q : Rat) : Nat × Int :=
  ((List.range 17).findSome? fun n => nearer q (readBack q (n + 1))).getD (0, 0)

end Binary64

/-- How a decimal is laid out: the range of leading exponents written without an exponent, and
the least number of digits that a written exponent has. -/
structure Layout where
  leastPositional : Int
  mostPositional : Int
  exponentDigits : Nat

namespace Layout

/-- A number's own text has no exponent from `10 ^ -4` up to `10 ^ 16`, and at least two exponent
digits beyond. -/
def own : Layout := ⟨-4, 15, 2⟩

/-- A run of the digit zero. -/
def zeros (n : Nat) : List Char := List.replicate n '0'

/-- The digits of a number without the zeros at its end. -/
def significant (digits : Nat) : List Char :=
  ((Nat.toDigits 10 digits).reverse.dropWhile (· = '0')).reverse

/-- A decimal `digits · 10 ^ exponent`: positional with at least one digit on each side of the
point, or scientific with a signed exponent and no bare point. -/
def arrange (layout : Layout) (digits : Nat) (exponent : Int) : List Char :=
  let leading := exponent + ((Nat.toDigits 10 digits).length : Int) - 1
  let ds := significant digits
  let whole := (leading + 1).toNat
  if layout.leastPositional ≤ leading ∧ leading ≤ layout.mostPositional then
    if leading < 0 then '0' :: '.' :: (zeros (-leading - 1).toNat ++ ds)
    else if ds.length ≤ whole then ds ++ zeros (whole - ds.length) ++ ['.', '0']
    else ds.take whole ++ '.' :: ds.drop whole
  else
    let mantissa := match ds with
      | [] => []
      | [d] => [d]
      | d :: rest => d :: '.' :: rest
    let written := Nat.toDigits 10 leading.natAbs
    mantissa ++ 'e' :: (if leading < 0 then '-' else '+') ::
      (zeros (layout.exponentDigits - written.length) ++ written)

end Layout

/-- The text of a number: the fewest digits that read back, in `Layout.own`. -/
def Number.text : Number → String
  | .nan => "nan"
  | .infinite negative => if negative then "-inf" else "inf"
  | .finite negative m =>
      let sign := if negative then "-" else ""
      if m = 0 then sign ++ "0.0"
      else
        let (digits, exponent) := Binary64.shortest m
        sign ++ String.ofList (Layout.own.arrange digits exponent)

end NodeInventory
