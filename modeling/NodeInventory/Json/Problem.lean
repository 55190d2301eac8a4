/-!
# What is wrong with a JSON text

A problem has a description and a place, given as a line, a column and the number of characters
before it.
-/

namespace NodeInventory.Json

/-- The ways in which a text fails to be JSON. -/
inductive Flaw where
  | noValue
  | noName
  | noColon
  | noComma
  | extraData
  | openText
  | controlCharacter
  | badEscape
  | badCode
  | byteOrderMark
  deriving DecidableEq, Repr

/-- The description of a flaw. -/
def Flaw.description : Flaw → String
  | .noValue => "Expecting value"
  | .noName => "Expecting property name enclosed in double quotes"
  | .noColon => "Expecting ':' delimiter"
  | .noComma => "Expecting ',' delimiter"
  | .extraData => "Extra data"
  | .openText => "Unterminated string starting at"
  | .controlCharacter => "Invalid control character at"
  | .badEscape => "Invalid \\escape"
  | .badCode => "Invalid \\uXXXX escape"
  | .byteOrderMark => "Unexpected UTF-8 BOM (decode using utf-8-sig)"

/-- A flaw at a place. -/
structure Problem where
  flaw : Flaw
  line : Nat
  column : Nat
  offset : Nat
  deriving DecidableEq, Repr

/-- The problem of a flaw `offset` characters into a text. -/
def Problem.at (flaw : Flaw) (text : List Char) (offset : Nat) : Problem :=
  let before := text.take offset
  let onLine := (before.reverse.takeWhile (· != '\n')).length
  ⟨flaw, before.count '\n' + 1, onLine + 1, offset⟩

/-- A problem in words. -/
def Problem.message (p : Problem) : String :=
  p.flaw.description ++ ": line " ++ toString p.line ++ " column " ++ toString p.column ++
    " (char " ++ toString p.offset ++ ")"

end NodeInventory.Json
