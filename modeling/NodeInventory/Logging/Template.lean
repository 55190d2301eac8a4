import NodeInventory.Text.Digit

/-!
# Layouts of records

A layout is a text with fields in it.  A field is a percent sign, the name of what it shows in
parentheses, flags, a width, a point and a precision, and a letter that says how it is shown.  All
but the percent sign and the letter may be missing; a width or a precision may be an asterisk,
which takes a number from what is shown.  Two percent signs stand for one.
-/

namespace NodeInventory.Logging

/-- A width or a precision. -/
inductive Count where
  | unset
  | number (n : Nat)
  | taken
  deriving DecidableEq, Repr

/-- A field of a layout. -/
structure Slot where
  /-- The name of what is shown, when there is one. -/
  name : Option String
  flags : List Char
  width : Count
  precision : Count
  /-- How it is shown; nothing when the layout ends before that. -/
  letter : Option Char
  deriving DecidableEq, Repr

/-- A part of a layout. -/
inductive Piece where
  | char (c : Char)
  | slot (s : Slot)
  /-- A field whose name is never closed. -/
  | unclosed
  deriving DecidableEq, Repr

/-- A count at the start of a text, and the rest. -/
def takeCount (cs : List Char) : Count × List Char :=
  match cs with
  | '*' :: rest => (.taken, rest)
  | _ =>
      let digits := cs.takeWhile Char.isDigit
      (if digits.isEmpty then .unset else .number (Text.asciiNumber digits), cs.dropWhile Char.isDigit)

/-- A precision after its point, and the rest; the point alone asks for none of what follows. -/
def takePrecision (cs : List Char) : Count × List Char :=
  match cs with
  | '.' :: after =>
      match takeCount after with
      | (.unset, rest) => (.number 0, rest)
      | found => found
  | _ => (.unset, cs)

/-- The rest of a name up to the parenthesis that closes it, `depth` others being open, and what
follows. -/
def takeName : Nat → List Char → Option (List Char × List Char)
  | _, [] => none
  | 0, ')' :: rest => some ([], rest)
  | depth + 1, ')' :: rest => (takeName depth rest).map fun (name, after) => (')' :: name, after)
  | depth, '(' :: rest => (takeName (depth + 1) rest).map fun (name, after) => ('(' :: name, after)
  | depth, c :: rest => (takeName depth rest).map fun (name, after) => (c :: name, after)

/-- The characters that are flags. -/
def isFlag (c : Char) : Bool := "#0+ -".contains c

/-- The letters for the size of a number, which change nothing. -/
def isSize (c : Char) : Bool := "hlL".contains c

/-- Drops one letter for a size. -/
def dropSize (cs : List Char) : List Char :=
  match cs with
  | c :: rest => if isSize c then rest else cs
  | [] => []

/-- A field after its name, and the rest. -/
def takeSlot (name : Option String) (cs : List Char) : Slot × List Char :=
  let flags := cs.takeWhile isFlag
  let (width, rest) := takeCount (cs.dropWhile isFlag)
  let (precision, rest) := takePrecision rest
  let rest := dropSize rest
  (⟨name, flags, width, precision, rest.head?⟩, rest.drop 1)

/-- The parts of a layout; `fuel` is its length. -/
def pieces : Nat → List Char → List Piece
  | _, [] => []
  | 0, _ => [.unclosed]
  | fuel + 1, '%' :: '%' :: rest => .char '%' :: pieces fuel rest
  | fuel + 1, '%' :: '(' :: rest =>
      match takeName 0 rest with
      | none => [.unclosed]
      | some (name, rest) =>
          let (slot, rest) := takeSlot (some (String.ofList name)) rest
          .slot slot :: pieces fuel rest
  | fuel + 1, '%' :: rest =>
      let (slot, rest) := takeSlot none rest
      .slot slot :: pieces fuel rest
  | fuel + 1, c :: rest => .char c :: pieces fuel rest

end NodeInventory.Logging
