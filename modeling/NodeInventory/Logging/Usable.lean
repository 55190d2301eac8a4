import NodeInventory.Logging.Template
import NodeInventory.Text.Digit
import NodeInventory.Text.Word

/-!
# Usable layouts

A layout can be used when it shows something: when somewhere in it there is a whole field, named by
a word and ended by one of the letters that fields end with.
-/

namespace NodeInventory.Logging

/-- The letters that end a field, in either case. -/
def endsField (c : Char) : Bool :=
  "diouxefgcrsaDIOUXEFGCRSA%İıſ".contains c

/-- A text after a count, if it starts with one: an asterisk or digits of any script. -/
def afterCount? (cs : List Char) : Option (List Char) :=
  let isDigit (c : Char) : Bool := (Text.decimalValue? c).isSome
  match cs with
  | '*' :: rest => some rest
  | c :: rest => if isDigit c then some (rest.dropWhile isDigit) else none
  | [] => none

/-- A text after a point and a count, if it starts with both. -/
def afterPrecision (cs : List Char) : List Char :=
  match cs with
  | '.' :: rest => (afterCount? rest).getD cs
  | _ => cs

/-- Whether a field follows after a percent sign and a parenthesis. -/
def startsField (cs : List Char) : Bool :=
  let name := cs.takeWhile Text.isWordChar
  match cs.drop name.length with
  | ')' :: rest =>
      let rest := rest.dropWhile isFlag
      let rest := afterPrecision ((afterCount? rest).getD rest)
      !name.isEmpty && rest.head?.any endsField
  | _ => false

/-- Whether a layout has a field anywhere. -/
def isUsable : List Char → Bool
  | '%' :: '(' :: rest => startsField rest || isUsable rest
  | _ :: rest => isUsable rest
  | [] => false

end NodeInventory.Logging
