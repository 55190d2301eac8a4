import NodeInventory.Decimal.Binary64
import NodeInventory.Fault
import NodeInventory.Text.Integer

/-!
# Reading JSON

`Json.read` turns a text into the value it denotes.  A number without fraction and exponent is a
whole number of any size, every other number is rounded to binary64, `NaN` and the infinities are
numbers, and of several fields under one key the last one counts.  Every other text is refused
with the flaw that a left-to-right reading meets first and its place.

A code that is half of a surrogate pair may stand alone between quotes.  It is no character, so a
text cannot hold it, and what is read there has the replacement character in its place.

Each reader takes the text left to read and returns what it read with the text left after it; a
place is kept as the number of characters left there.
-/

namespace NodeInventory.Json

/-- Why a reader stopped. -/
inductive Stop where
  | flaw (flaw : Flaw) (left : Nat)
  | digits (count : Nat)

/-- Something read, and the text left after it. -/
abbrev Read (α : Type) := Except Stop (α × List Char)

/-- The characters between tokens. -/
def isGap (c : Char) : Bool := c == ' ' || c == '\t' || c == '\n' || c == '\r'

def skipGap (cs : List Char) : List Char := cs.dropWhile isGap

/-- The value of a hexadecimal digit. -/
def hexValue? (c : Char) : Option Nat :=
  if '0' ≤ c ∧ c ≤ '9' then some (c.toNat - '0'.toNat)
  else if 'a' ≤ c ∧ c ≤ 'f' then some (c.toNat - 'a'.toNat + 10)
  else if 'A' ≤ c ∧ c ≤ 'F' then some (c.toNat - 'A'.toNat + 10)
  else none

/-- The code unit of four hexadecimal digits. -/
def codeUnit? (a b c d : Char) : Option Nat := do
  let a ← hexValue? a
  let b ← hexValue? b
  let c ← hexValue? c
  let d ← hexValue? d
  some (((a * 16 + b) * 16 + c) * 16 + d)

def isHighSurrogate (n : Nat) : Bool := 0xD800 ≤ n && n < 0xDC00

def isLowSurrogate (n : Nat) : Bool := 0xDC00 ≤ n && n < 0xE000

/-- What stands in a text for half of a pair. -/
def replacement : Char := '\uFFFD'

/-- The character of a code unit that stands alone.  Half of a pair has none: the text that is read
differs there from the one that was written. -/
def unitChar (n : Nat) : Char :=
  if isHighSurrogate n || isLowSurrogate n then replacement else Char.ofNat n

/-- The character that a pair of code units stands for. -/
def pairChar (high low : Nat) : Char :=
  Char.ofNat (0x10000 + (high - 0xD800) * 0x400 + (low - 0xDC00))

/-- The character that a one-letter escape stands for. -/
def escaped? (c : Char) : Option Char :=
  match c with
  | '"' | '\\' | '/' => some c
  | 'b' => some '\x08'
  | 'f' => some '\x0c'
  | 'n' => some '\n'
  | 'r' => some '\r'
  | 't' => some '\t'
  | _ => none

/-- Puts a character in front of a text that was read. -/
def prepend (c : Char) : Read (List Char) → Read (List Char)
  | .ok (cs, rest) => .ok (c :: cs, rest)
  | .error e => .error e

/-- The rest of a text after its opening quote, at which `start` characters were left. -/
def readText (start : Nat) : List Char → Read (List Char)
  | [] => .error (.flaw .openText start)
  | '"' :: rest => .ok ([], rest)
  | ['\\'] => .error (.flaw .openText start)
  | '\\' :: 'u' :: a :: b :: c :: d :: '\\' :: 'u' :: e :: f :: g :: h :: next :: rest =>
      match codeUnit? a b c d with
      | none => .error (.flaw .badCode (rest.length + 12))
      | some unit =>
          let after := '\\' :: 'u' :: e :: f :: g :: h :: next :: rest
          if isHighSurrogate unit then
            match codeUnit? e f g h with
            | none => .error (.flaw .badCode (rest.length + 6))
            | some low =>
                if isLowSurrogate low then
                  prepend (pairChar unit low) (readText start (next :: rest))
                else prepend (unitChar unit) (readText start after)
          else prepend (unitChar unit) (readText start after)
  | '\\' :: 'u' :: a :: b :: c :: d :: next :: rest =>
      match codeUnit? a b c d with
      | none => .error (.flaw .badCode (rest.length + 6))
      | some unit => prepend (unitChar unit) (readText start (next :: rest))
  | '\\' :: 'u' :: rest => .error (.flaw .badCode (rest.length + 1))
  | '\\' :: c :: rest =>
      match escaped? c with
      | some e => prepend e (readText start rest)
      | none => .error (.flaw .badEscape (rest.length + 2))
  | c :: rest =>
      if c.toNat < 0x20 then .error (.flaw .controlCharacter (rest.length + 1))
      else prepend c (readText start rest)
termination_by cs => cs.length

def isAsciiDigit (c : Char) : Bool := '0' ≤ c && c ≤ '9'

/-- The digits of a whole part: a lone zero or a run without a leading zero. -/
def takeWhole : List Char → Option (List Char × List Char)
  | '0' :: rest => some (['0'], rest)
  | c :: rest =>
      if isAsciiDigit c then
        some (c :: rest.takeWhile isAsciiDigit, rest.dropWhile isAsciiDigit)
      else none
  | [] => none

/-- The digits after a point, when there is one with a digit behind it. -/
def takeFraction : List Char → List Char × List Char
  | '.' :: c :: rest =>
      if isAsciiDigit c then
        (c :: rest.takeWhile isAsciiDigit, rest.dropWhile isAsciiDigit)
      else ([], '.' :: c :: rest)
  | cs => ([], cs)

/-- An exponent, when there is one with a digit in it. -/
def takeExponent (cs : List Char) : Option Int × List Char :=
  match cs with
  | c :: rest =>
      if c == 'e' || c == 'E' then
        let (negative, digits) := Text.takeSign rest
        let ds := digits.takeWhile isAsciiDigit
        if ds.isEmpty then (none, cs)
        else
          let n : Int := Text.asciiNumber ds
          (some (if negative then -n else n), digits.dropWhile isAsciiDigit)
      else (none, cs)
  | [] => (none, cs)

/-- A number. -/
def readNumber (cs : List Char) : Read Value :=
  let (negative, unsigned) := match cs with
    | '-' :: rest => (true, rest)
    | _ => (false, cs)
  match takeWhole unsigned with
  | none => .error (.flaw .noValue cs.length)
  | some (whole, rest) =>
      let (fraction, rest) := takeFraction rest
      let (exponent, rest) := takeExponent rest
      if fraction.isEmpty && exponent.isNone then
        if Text.digitLimit < whole.length then .error (.digits whole.length)
        else
          let n : Int := Text.asciiNumber whole
          .ok (.int (if negative then -n else n), rest)
      else
        let x := Binary64.ofDecimal negative (Text.asciiNumber (whole ++ fraction))
          (exponent.getD 0 - fraction.length)
        .ok (.float x, rest)

/-- The words that are values. -/
def words : List (String × Value) :=
  [("null", .null), ("true", .bool true), ("false", .bool false), ("NaN", .float .nan),
   ("Infinity", .float (.infinite false)), ("-Infinity", .float (.infinite true))]

/-- A word, or else a number. -/
def readScalar (cs : List Char) : Read Value :=
  match words.find? fun (word, _) => word.toList.isPrefixOf cs with
  | some (word, v) => .ok (v, cs.drop word.length)
  | none => readNumber cs

mutual

/-- A value; `depth` bounds the steps left and is never used up on a text of that length. -/
def readValue : Nat → List Char → Read Value
  | 0, cs => .error (.flaw .noValue cs.length)
  | _, [] => .error (.flaw .noValue 0)
  | depth + 1, c :: rest =>
      if c = '"' then
        match readText (rest.length + 1) rest with
        | .ok (s, rest) => .ok (.text (String.ofList s), rest)
        | .error e => .error e
      else if c = '[' then
        match skipGap rest with
        | ']' :: rest => .ok (.list [], rest)
        | rest => readItems depth [] rest
      else if c = '\x7b' then
        match skipGap rest with
        | '\x7d' :: rest => .ok (.object [], rest)
        | rest => readFields depth [] rest
      else readScalar (c :: rest)

/-- The items of a list from the next one on, after those in `before`, last one first. -/
def readItems : Nat → List Value → List Char → Read Value
  | 0, _, cs => .error (.flaw .noValue cs.length)
  | depth + 1, before, cs =>
      match readValue depth cs with
      | .error e => .error e
      | .ok (v, rest) =>
          match skipGap rest with
          | ']' :: rest => .ok (.list (v :: before).reverse, rest)
          | ',' :: rest => readItems depth (v :: before) (skipGap rest)
          | rest => .error (.flaw .noComma rest.length)

/-- The fields of an object from the next one on, after those in `before`, last one first. -/
def readFields : Nat → Fields → List Char → Read Value
  | 0, _, cs => .error (.flaw .noValue cs.length)
  | depth + 1, before, cs =>
      match cs with
      | '"' :: rest =>
          match readText (rest.length + 1) rest with
          | .error e => .error e
          | .ok (name, rest) =>
              match skipGap rest with
              | ':' :: rest =>
                  match readValue depth (skipGap rest) with
                  | .error e => .error e
                  | .ok (v, rest) =>
                      let written := (String.ofList name, v) :: before
                      match skipGap rest with
                      | '\x7d' :: rest => .ok (.object (Fields.ofList written.reverse), rest)
                      | ',' :: rest => readFields depth written (skipGap rest)
                      | rest => .error (.flaw .noComma rest.length)
              | rest => .error (.flaw .noColon rest.length)
      | _ => .error (.flaw .noName cs.length)

end

/-- The value that a text denotes. -/
def read (text : List Char) : Outcome Value :=
  let fail (flaw : Flaw) (left : Nat) : Outcome Value :=
    .error (.malformed (Problem.at flaw text (text.length - left)))
  if text.head? = some '\uFEFF' then fail .byteOrderMark text.length
  else
    match readValue (2 * text.length + 1) (skipGap text) with
    | .error (.flaw flaw left) => fail flaw left
    | .error (.digits count) => .error (.tooManyDigits count)
    | .ok (v, rest) =>
        match skipGap rest with
        | [] => .ok v
        | rest => fail .extraData rest.length

end NodeInventory.Json
