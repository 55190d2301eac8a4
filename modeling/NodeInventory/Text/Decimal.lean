import NodeInventory.Decimal.Binary64
import NodeInventory.Text.Blank
import NodeInventory.Text.Integer

/-!
# Numbers in text

A number is written with a sign, digits with or without a point among them, and an exponent, or as
one of the words for the infinities and for no number.  Digits follow the rules of whole numbers
in text, and blanks around a number do not count.
-/

namespace NodeInventory.Text

/-- The words for what is not a finite number. -/
def numberWords : List (String × (Bool → Number)) :=
  [("inf", .infinite), ("infinity", .infinite), ("nan", fun _ => .nan)]

/-- The digits at the start of a text, perhaps none. -/
def digitsOrNone (cs : List Char) : List Nat × List Char := (takeDigits cs).getD ([], cs)

/-- An exponent at the end of a text. -/
def endExponent? : List Char → Option Int
  | [] => some 0
  | c :: rest =>
      if c = 'e' ∨ c = 'E' then
        let (negative, digits) := takeSign rest
        match takeDigits digits with
        | some (ds, []) => some (if negative then -(ofDigits ds : Int) else ofDigits ds)
        | _ => none
      else none

/-- The number that a text denotes. -/
def toNumber? (s : String) : Option Number :=
  let (negative, cs) := takeSign (trimWith isBlank s.toList)
  match numberWords.find? fun (word, _) => word == String.ofList (cs.map Char.toLower) with
  | some (_, number) => some (number negative)
  | none =>
      let (whole, rest) := digitsOrNone cs
      let (fraction, rest) := match rest with
        | '.' :: after => digitsOrNone after
        | _ => ([], rest)
      if whole.isEmpty && fraction.isEmpty then none
      else
        (endExponent? rest).map fun exponent =>
          Binary64.ofDecimal negative (ofDigits (whole ++ fraction)) (exponent - fraction.length)

end NodeInventory.Text
