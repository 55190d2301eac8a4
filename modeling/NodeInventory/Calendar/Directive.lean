import NodeInventory.Text.Digit

/-!
# Patterns for times

A pattern is a text with directives in it.  A directive is a percent sign, flags, a width, at most
one modifier, and the letter of a part of the time.  All but the percent sign and the letter may be
missing.
-/

namespace NodeInventory.Pattern

/-- What fills a part up to its width. -/
inductive Padding where
  /-- A number without anything before its digits. -/
  | bare
  | blanks
  | zeros
  deriving DecidableEq, Repr

/-- How a part is written: what fills it, whether in capitals, whether in the other case than
usual, and how wide at least. -/
structure Manner where
  padding : Option Padding := none
  capitals : Bool := false
  otherCase : Bool := false
  width : Nat := 0
  deriving DecidableEq, Repr

/-- A directive. -/
structure Directive where
  manner : Manner
  modifier : Option Char
  /-- The part of the time; nothing when the pattern ends before that. -/
  letter : Option Char
  /-- The directive as it stands in the pattern. -/
  source : List Char
  deriving DecidableEq, Repr

/-- A part of a pattern. -/
inductive Piece where
  | char (c : Char)
  | directive (d : Directive)
  deriving DecidableEq, Repr

/-- The largest width; a larger one counts as this one. -/
def widthLimit : Nat := Nat.pow 2 31 - 1

/-- Reads flags into a manner; of several for the padding the last one counts. -/
def takeFlags (m : Manner) : List Char → Manner × List Char
  | '-' :: rest => takeFlags { m with padding := some .bare } rest
  | '_' :: rest => takeFlags { m with padding := some .blanks } rest
  | '0' :: rest => takeFlags { m with padding := some .zeros } rest
  | '^' :: rest => takeFlags { m with capitals := true } rest
  | '#' :: rest => takeFlags { m with otherCase := true } rest
  | cs => (m, cs)

/-- Reads a modifier. -/
def takeModifier : List Char → Option Char × List Char
  | 'E' :: rest => (some 'E', rest)
  | 'O' :: rest => (some 'O', rest)
  | cs => (none, cs)

/-- A directive after its percent sign, and the rest.  Its source starts at the last percent sign
up to the letter, which is the letter itself when that is one. -/
def takeDirective (cs : List Char) : Directive × List Char :=
  let (manner, rest) := takeFlags {} cs
  let width := Text.asciiNumber (rest.takeWhile Char.isDigit)
  let (modifier, rest) := takeModifier (rest.dropWhile Char.isDigit)
  let after := rest.drop 1
  let source :=
    if rest.head? = some '%' then ['%'] else '%' :: cs.take (cs.length - after.length)
  (⟨{ manner with width := min width widthLimit }, modifier, rest.head?, source⟩, after)

/-- The parts of a pattern; `fuel` is its length. -/
def pieces : Nat → List Char → List Piece
  | _, [] => []
  | 0, _ => []
  | fuel + 1, '%' :: rest =>
      let (directive, rest) := takeDirective rest
      .directive directive :: pieces fuel rest
  | fuel + 1, c :: rest => .char c :: pieces fuel rest

end NodeInventory.Pattern
