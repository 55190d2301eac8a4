import NodeInventory.Fault
import NodeInventory.Text.Blank
import NodeInventory.Text.Digit

/-!
# Whole numbers in text

A whole number is written with decimal digits of any script, single underscores between digits,
an optional sign in front and spaces around.  Texts of more than `digitLimit` digits are not
converted.
-/

namespace NodeInventory.Text

/-- The largest number of digits that is converted. -/
def digitLimit : Nat := 4300

/-- The digit values of the longest numeral at the start of a text, and what follows it.  A
numeral neither starts nor ends with an underscore and has no two of them in a row. -/
def takeDigits : List Char → Option (List Nat × List Char)
  | [] => none
  | c :: '_' :: rest =>
      match decimalValue? c with
      | none => none
      | some d => (takeDigits rest).map fun (ds, after) => (d :: ds, after)
  | c :: rest =>
      match decimalValue? c with
      | none => none
      | some d =>
          match takeDigits rest with
          | some (ds, after) => some (d :: ds, after)
          | none => some ([d], rest)

/-- A sign and the rest of a text. -/
def takeSign : List Char → Bool × List Char
  | '-' :: rest => (true, rest)
  | '+' :: rest => (false, rest)
  | cs => (false, cs)

/-- The whole number written in a text. -/
def toInt (s : String) : Outcome Int :=
  let (negative, numeral) := takeSign (s.toList.dropWhile isSpace)
  match takeDigits numeral with
  | none => .error (.notInteger s)
  | some (ds, after) =>
      if digitLimit < ds.length then .error (.tooManyDigits ds.length)
      else if after.all isSpace then
        .ok (if negative then -(ofDigits ds : Int) else (ofDigits ds : Int))
      else .error (.notInteger s)

end NodeInventory.Text
