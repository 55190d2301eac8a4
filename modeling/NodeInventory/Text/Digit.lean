import NodeInventory.Text.Ranges
import NodeInventory.Text.DigitTable

/-!
# Digits

The decimal digits of all scripts with their values, and the wider class of digit characters,
which also holds superscripts and circled digits.
-/

namespace NodeInventory.Text

/-- The value of a decimal digit of any script. -/
def decimalValue? (c : Char) : Option Nat :=
  (decimalZeros.find? fun first => first ≤ c.toNat && c.toNat ≤ first + 9).map (c.toNat - ·)

/-- The number that the values of decimal digits make. -/
def ofDigits (ds : List Nat) : Nat := ds.foldl (fun n d => 10 * n + d) 0

/-- The number that ASCII digits denote. -/
def asciiNumber (cs : List Char) : Nat := ofDigits (cs.map fun c => c.toNat - '0'.toNat)

/-- A decimal digit, or a character that stands for a digit without being one. -/
def isDigit (c : Char) : Bool :=
  (decimalValue? c).isSome || inRanges otherDigitRanges c

/-- A text of one or more digit characters. -/
def isDigits (s : String) : Bool := !s.isEmpty && s.toList.all isDigit

end NodeInventory.Text
