import NodeInventory.Text.Blank
import NodeInventory.Text.Integer

/-!
# Whole numbers in payloads

A whole number in a payload may be written as a text: spaces around, a sign, ASCII digits with
single underscores between them, and after a point nothing but zeros, at least one.  Leading zeros
and the underscores among them do not count.
-/

namespace NodeInventory.Payload

/-- The digits without leading zeros, of which one stays when no other digit follows. -/
def dropLeadingZeros (cs : List Char) : Option (List Char) :=
  match cs with
  | '0' :: rest =>
      let zeros := rest.takeWhile fun c => c = '0' || c = '_'
      let after := rest.drop zeros.length
      if after.isEmpty || after.head? = some '.' then
        if zeros.getLast? = some '_' then none else some ('0' :: after)
      else some after
  | _ => some cs

/-- The text before a point, when only zeros follow it. -/
def dropZeroFraction (cs : List Char) : Option (List Char) :=
  match cs.dropWhile (· != '.') with
  | [] => some cs
  | _ :: zeros =>
      if !zeros.isEmpty && zeros.all (· = '0') then some (cs.takeWhile (· != '.')) else none

/-- The values of ASCII digits with single underscores between them. -/
def digitValues? (cs : List Char) : Option (List Nat) :=
  if cs.all fun c => c.isDigit || c = '_' then
    match Text.takeDigits cs with
    | some (ds, []) => some ds
    | _ => none
  else none

/-- The digits of a numeral after its sign. -/
def numeralDigits? (cs : List Char) : Option (List Nat) := do
  digitValues? (← dropZeroFraction (← dropLeadingZeros cs))

/-- The whole number that a text denotes, unless its digits and its minus sign are too many. -/
def wholeNumber (s : String) : Except Rule Int :=
  let (negative, cs) := Text.takeSign (Text.trimWith Text.isSpace s.toList)
  match numeralDigits? cs with
  | some ds =>
      if Text.digitLimit < ds.length + (if negative then 1 else 0) then .error .intParsingSize
      else .ok (if negative then -(Text.ofDigits ds : Int) else Text.ofDigits ds)
  | none => .error .intParsing

end NodeInventory.Payload
