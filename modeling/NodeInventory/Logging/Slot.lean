import NodeInventory.Decimal.Scientific
import NodeInventory.Fault
import NodeInventory.Logging.Template
import NodeInventory.Text.Case
import NodeInventory.Value.Integer

/-!
# What fields show

A field shows a value as a text, as a whole number in base ten, eight or sixteen, as a decimal, or
as the character of a code.  A number keeps its sign in front of zeros that fill its width, and
what marks its base stands between the sign and the digits.
-/

namespace NodeInventory.Logging

/-- A number in writing: whether it is negative, the mark of its base, and its digits. -/
structure Figure where
  negative : Bool
  mark : List Char := []
  digits : List Char
  deriving DecidableEq, Repr

/-- A figure in capitals. -/
def Figure.capitals (f : Figure) : Figure :=
  { f with mark := f.mark.map Char.toUpper, digits := f.digits.map Char.toUpper }

/-- A field that is ready to show a value: its flags, its width and its precision. -/
structure Frame where
  flags : List Char
  width : Nat := 0
  precision : Option Nat := none

namespace Frame

/-- Whether a flag is set. -/
def has (f : Frame) (flag : Char) : Bool := f.flags.contains flag

/-- Puts blanks on the left, or on the right where the flags ask for it. -/
def padText (f : Frame) (text : List Char) : List Char :=
  let blanks := List.replicate (f.width - text.length) ' '
  if f.has '-' then text ++ blanks else blanks ++ text

/-- The sign of a figure: of one that is not negative, what the flags ask for. -/
def sign (f : Frame) (figure : Figure) : List Char :=
  if figure.negative then ['-'] else if f.has '+' then ['+'] else if f.has ' ' then [' '] else []

/-- Fills the width of a figure, with zeros behind its sign and its mark or with blanks. -/
def padFigure (f : Frame) (figure : Figure) : List Char :=
  let front := f.sign figure ++ figure.mark
  if f.has '0' && !f.has '-' then
    front ++ List.replicate (f.width - (front.length + figure.digits.length)) '0' ++ figure.digits
  else f.padText (front ++ figure.digits)

/-- A text, cut to the precision. -/
def showText (f : Frame) (text : List Char) : List Char :=
  f.padText (match f.precision with
    | some n => text.take n
    | none => text)

/-- The figure of a whole number, with at least as many digits as the precision asks for. -/
def wholeFigure (f : Frame) (base : Nat) (mark : String) (n : Int) : Figure :=
  { negative := decide (n < 0)
    mark := if f.has '#' then mark.toList else []
    digits := padZeros (f.precision.getD 0) (Nat.toDigits base n.natAbs) }

/-- The whole number of a value that is shown in base ten; a text is none. -/
def wholeOf (v : Value) : Outcome Int :=
  match v with
  | .text _ => .error .wrongType
  | _ => v.toInt

/-- The whole number of a value that is shown in another base: it has to be one. -/
def exactWholeOf (v : Value) : Outcome Int :=
  match v with
  | .bool b => .ok (if b then 1 else 0)
  | .int n => .ok n
  | _ => .error .wrongType

/-- The binary64 number of a value. -/
def decimalOf (v : Value) : Outcome Number :=
  match v.number? with
  | none => .error .wrongType
  | some (.finite negative m) =>
      match Binary64.ofMagnitude negative m with
      | .finite negative m => .ok (.finite negative m)
      | _ => .error .outOfRange
  | some x => .ok x

/-- The number of digits after the point unless the precision says otherwise. -/
def usualPlaces : Nat := 6

/-- The figure of a number whose magnitude is written by `digits`. -/
def decimalFigure (f : Frame) (digits : Bool → Nat → Rat → List Char) (x : Number) : Figure :=
  match x with
  | .nan => { negative := false, digits := "nan".toList }
  | .infinite negative => { negative := negative, digits := "inf".toList }
  | .finite negative m =>
      { negative := negative, digits := digits (f.has '#') (f.precision.getD usualPlaces) m }

/-- The largest code of a character. -/
def largestCode : Int := 0x10FFFF

/-- The character of a value: of a text of one character, or of a code. -/
def charOf (v : Value) : Outcome Char :=
  match v with
  | .text s =>
      match s.toList with
      | [c] => .ok c
      | _ => .error .wrongType
  | _ => do
      let n ← exactWholeOf v
      if 0 ≤ n ∧ n ≤ largestCode then pure (Char.ofNat n.toNat) else .error .outOfRange

/-- A value as a letter asks for it. -/
def render (f : Frame) (letter : Char) (v : Value) : Outcome (List Char) :=
  let whole (base : Nat) (mark : String) : Outcome Figure :=
    (exactWholeOf v).map (f.wholeFigure base mark)
  let decimal (digits : Bool → Nat → Rat → List Char) : Outcome Figure :=
    (decimalOf v).map (f.decimalFigure digits)
  match letter with
  | 's' => .ok (f.showText v.shown.toList)
  | 'r' => .ok (f.showText v.spelled.toList)
  | 'a' => .ok (f.showText (Text.asciiOnly v.spelled.toList))
  | 'c' => (charOf v).map fun c => f.padText [c]
  | 'd' | 'i' | 'u' => (wholeOf v).map fun n => f.padFigure (f.wholeFigure 10 "" n)
  | 'o' => (whole 8 "0o").map f.padFigure
  | 'x' => (whole 16 "0x").map f.padFigure
  | 'X' => (whole 16 "0x").map fun figure => f.padFigure figure.capitals
  | 'f' => (decimal fixedDigits).map f.padFigure
  | 'F' => (decimal fixedDigits).map fun figure => f.padFigure figure.capitals
  | 'e' => (decimal scientificDigits).map f.padFigure
  | 'E' => (decimal scientificDigits).map fun figure => f.padFigure figure.capitals
  | 'g' => (decimal generalDigits).map f.padFigure
  | 'G' => (decimal generalDigits).map fun figure => f.padFigure figure.capitals
  | _ => .error .badValue

end Frame

/-! ### Where values come from -/

/-- What the next field shows unless it has a name: the value that the last name stood for, if it
has not been shown since, and before any name the whole record. -/
abbrev Supply := Option Value

/-- The largest width. -/
def widthLimit : Nat := Nat.pow 2 63 - 1

/-- The largest precision. -/
def precisionLimit : Nat := Nat.pow 2 31 - 1

/-- A count up to a limit, and what is left to show.  A count that is taken from the value leaves
nothing to show in it. -/
def Count.resolve (limit : Nat) (supply : Supply) : Count → Outcome (Option Nat × Supply)
  | .unset => .ok (none, supply)
  | .number n => if n ≤ limit then .ok (some n, supply) else .error .badValue
  | .taken =>
      match supply with
      | some v => do
          let n ← Frame.exactWholeOf v
          if -(limit : Int) - 1 ≤ n ∧ n ≤ limit then pure (none, none) else .error .outOfRange
      | none => .error .wrongType

/-- What a field can show: the value that its name stands for, or else what is left. -/
def Slot.supply (fields : Fields) (left : Supply) (s : Slot) : Outcome Supply :=
  match s.name with
  | none => .ok left
  | some name =>
      match Fields.find? fields name with
      | some v => .ok (some v)
      | none => .error .badValue

/-- What a field shows; after that nothing is left for fields without a name. -/
def Slot.display (fields : Fields) (left : Supply) (s : Slot) : Outcome (List Char) := do
  let left ← s.supply fields left
  let (width, left) ← s.width.resolve widthLimit left
  let (precision, left) ← s.precision.resolve precisionLimit left
  match s.letter, left with
  | none, _ => .error .badValue
  | some _, none => .error .wrongType
  | some letter, some v => (Frame.mk s.flags (width.getD 0) precision).render letter v

/-- A layout filled from named values, `left` being what a field without a name shows. -/
def fill (fields : Fields) (left : Supply) : List Piece → Outcome (List Char)
  | [] => .ok []
  | .char c :: rest => do return c :: (← fill fields left rest)
  | .unclosed :: _ => .error .badValue
  | .slot s :: rest => do
      let text ← s.display fields left
      return text ++ (← fill fields none rest)

end NodeInventory.Logging
