import NodeInventory.Text.Digit

/-!
# Network addresses

Recognising the text of an address: four decimal groups between dots, or groups of hexadecimal
digits between colons, where one double colon may stand for the missing groups, the last two
groups may be written as four decimal ones, and a scope may follow.
-/

namespace NodeInventory.Address

/-- The parts of a text between separators. -/
def splitAt (separator : Char) : List Char → List (List Char)
  | [] => [[]]
  | c :: rest =>
      if c = separator then [] :: splitAt separator rest
      else
        match splitAt separator rest with
        | [] => [[c]]
        | part :: parts => (c :: part) :: parts

/-- A decimal group: up to 255, without leading zeros. -/
def isOctet (cs : List Char) : Bool :=
  !cs.isEmpty && cs.length ≤ 3 && cs.all Char.isDigit && (cs = ['0'] || cs.head? != some '0') &&
    Text.asciiNumber cs ≤ 255

/-- Four decimal groups between dots. -/
def isDotted (cs : List Char) : Bool :=
  let groups := splitAt '.' cs
  groups.length = 4 && groups.all isOctet

def isHexDigit (c : Char) : Bool :=
  c.isDigit || ('a' ≤ c && c ≤ 'f') || ('A' ≤ c && c ≤ 'F')

/-- A hexadecimal group of one to four digits. -/
def isHextet (cs : List Char) : Bool := !cs.isEmpty && cs.length ≤ 4 && cs.all isHexDigit

/-- The number of groups in a part of an address: none in an empty one.  At the end of the address,
four decimal groups may stand for two. -/
def groupCount? (atEnd : Bool) (cs : List Char) : Option Nat :=
  if cs.isEmpty then some 0
  else
    let groups := splitAt ':' cs
    if groups.all isHextet then some groups.length
    else if atEnd && groups.dropLast.all isHextet && isDotted (groups.getLastD []) then
      some (groups.length + 1)
    else none

/-- The text before and after the first double colon. -/
def splitDouble : List Char → Option (List Char × List Char)
  | ':' :: ':' :: rest => some ([], rest)
  | c :: rest => (splitDouble rest).map fun (before, after) => (c :: before, after)
  | [] => none

/-- Eight groups between colons, some of which a double colon may stand for. -/
def isColoned (cs : List Char) : Bool :=
  match splitDouble cs with
  | some (before, after) =>
      match groupCount? false before, groupCount? true after with
      | some n, some m => n + m ≤ 7
      | _, _ => false
  | none => groupCount? true cs = some 8

/-- An address with colons and perhaps a scope after a percent sign. -/
def isScoped (cs : List Char) : Bool :=
  !cs.contains '/' &&
    match splitAt '%' cs with
    | [address] => isColoned address
    | [address, scope] => !scope.isEmpty && isColoned address
    | _ => false

/-- Whether a text is an address. -/
def isAddress (s : String) : Bool := isDotted s.toList || isScoped s.toList

/-- Whether a number is an address: one of 128 bits. -/
def isAddressNumber (n : Int) : Bool := 0 ≤ n && n < Nat.pow 2 128

end NodeInventory.Address
