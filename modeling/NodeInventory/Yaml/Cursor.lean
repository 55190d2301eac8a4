/-!
# Places in a document

A place in a text, kept as what follows it together with its line, its column and the number of
characters before it.
-/

namespace NodeInventory.Yaml

/-- The characters that end a line. -/
def isBreak (c : Char) : Bool :=
  c == '\n' || c == '\r' || c.toNat == 0x85 || c.toNat == 0x2028 || c.toNat == 0x2029

/-- What a line end counts as: the two separators as themselves, every other one as a line feed. -/
def breakChar (c : Char) : Char := if c.toNat == 0x2028 || c.toNat == 0x2029 then c else '\n'

/-- Whether a character that may be missing is a blank or a line break. -/
def isGap (c : Option Char) : Bool :=
  match c with
  | none => true
  | some c => c == ' ' || c == '\t' || isBreak c

/-- Whether a character that may be missing is a blank other than a tab, or a line break. -/
def isStop (c : Option Char) : Bool := isGap c && c != some '\t'

/-- The mark that a text may begin with, which takes no column. -/
def byteOrderMark : Char := '\uFEFF'

/-- A place in the text and what follows it. -/
structure Cursor where
  rest : List Char
  line : Nat := 0
  column : Nat := 0
  index : Nat := 0

namespace Cursor

/-- The character at a distance. -/
def peek (c : Cursor) (distance : Nat) : Option Char := c.rest[distance]?

/-- One character further. -/
def next (c : Cursor) : Cursor :=
  match c.rest with
  | [] => c
  | ch :: rest =>
      if isBreak ch then ⟨rest, c.line + 1, 0, c.index + 1⟩
      else ⟨rest, c.line, if ch = byteOrderMark then c.column else c.column + 1, c.index + 1⟩

/-- Some characters further. -/
def advance (c : Cursor) : Nat → Cursor
  | 0 => c
  | n + 1 => c.next.advance n

/-- The characters of a class that stand here, and the place after them. -/
def takeWhile (c : Cursor) (p : Char → Bool) : List Char × Cursor :=
  let taken := c.rest.takeWhile p
  (taken, c.advance taken.length)

/-- The place after the characters of a class that stand here. -/
def dropWhile (c : Cursor) (p : Char → Bool) : Cursor := (c.takeWhile p).2

/-- The line end that stands here, if there is one, and the place after it. -/
def takeBreak (c : Cursor) : List Char × Cursor :=
  match c.rest with
  | ch :: _ => if isBreak ch then ([breakChar ch], c.next) else ([], c)
  | [] => ([], c)

/-- Whether a line of three marks stands here. -/
def atMarks (c : Cursor) (mark : Char) : Bool :=
  c.rest.take 3 == [mark, mark, mark] && isGap (c.peek 3)

/-- Whether a mark between documents stands here. -/
def atDocumentMark (c : Cursor) : Bool := c.column = 0 && (c.atMarks '-' || c.atMarks '.')

end Cursor

end NodeInventory.Yaml
