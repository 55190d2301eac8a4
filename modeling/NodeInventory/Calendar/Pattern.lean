import NodeInventory.Calendar.Directive
import NodeInventory.Calendar.Zone
import NodeInventory.Decimal.Fixed
import NodeInventory.Text.Case

/-!
# Writing times in patterns

The marks of a time's own go first: its offset, the name of its clock and its microseconds.  What
they leave is a pattern of directives.  Each letter has its number with a usual width, or its text;
what is no directive stands for itself.  A text that is too long for its pattern comes out empty.
-/

namespace NodeInventory

/-- A time on the clock of a zone. -/
structure ZonedTime where
  time : DateTime
  clock : ZoneClock
  summer : Bool

namespace Pattern

/-! ### Runs of characters -/

/-- A text as runs of one character each. -/
abbrev Runs := List (Char × Nat)

/-- A text without anything repeated. -/
def plain (cs : List Char) : Runs := cs.map fun c => (c, 1)

/-- The length of a text in runs. -/
def Runs.size (runs : Runs) : Nat := (runs.map fun (_, n) => n).foldr (· + ·) 0

/-- A text in runs, written out. -/
def Runs.expand (runs : Runs) : List Char := runs.flatMap fun (c, n) => List.replicate n c

/-! ### Parts of a time -/

def weekdayNames : List String :=
  ["Monday", "Tuesday", "Wednesday", "Thursday", "Friday", "Saturday", "Sunday"]

def monthNames : List String :=
  ["January", "February", "March", "April", "May", "June", "July", "August", "September",
   "October", "November", "December"]

/-- A part of a time: a number with its usual padding and its least width, or a text. -/
inductive Part where
  | number (padding : Padding) (width n : Nat)
  | text (cs : List Char)

/-- A number that zeros widen. -/
def zeros (width n : Nat) : Part := .number .zeros width n

/-- A number that blanks widen. -/
def blanks (width n : Nat) : Part := .number .blanks width n

/-- Fills a text on the left up to the width. -/
def Manner.put (m : Manner) (cs : List Char) : Runs :=
  (if m.padding = some .zeros then '0' else ' ', m.width - cs.length) :: plain cs

/-- A part in a manner. -/
def Part.write (m : Manner) : Part → Runs
  | .text cs => m.put cs
  | .number padding width n =>
      let digits := Nat.toDigits 10 n
      let missing := max width m.width - digits.length
      match m.padding.getD padding with
      | .bare => m.put digits
      | .blanks => (' ', missing) :: plain digits
      | .zeros => ('0', missing) :: plain digits

/-- The hour on a twelve-hour clock. -/
def twelveHour (hour : Nat) : Nat := if hour % 12 = 0 then 12 else hour % 12

/-- The year and week that a day belongs to when weeks are whole and start on Monday: the year of
its Thursday, and the Thursday's place among that year's. -/
def weekOf (day : Nat) : Nat × Nat :=
  let thursday := day - weekdayOf day + 3
  let year := yearOf thursday
  (year, (thursday - daysBeforeYear year) / 7 + 1)

/-- The seconds by which a summer clock is ahead of the standard one. -/
def summerSeconds : Int := 3600

/-- The seconds from the epoch to what the clock of a time shows, taken as standard time. -/
def shownSeconds (z : ZonedTime) : Int :=
  (z.time.micros : Int) / microsPerSecond - epochDay * 86400 -
    (if z.summer then summerSeconds else 0)

/-- The text of a name: in capitals also where the other case is asked for. -/
def Manner.name (m : Manner) (name : List Char) : List Char :=
  if m.capitals || m.otherCase then name.map Char.toUpper else name

/-- What a letter stands for when it stands for one thing. -/
def part? (z : ZonedTime) (m : Manner) (letter : Char) : Option Part :=
  let face := z.time.face
  let day := z.time.day
  let weekday := weekdayOf day
  let dayOfYear := day - daysBeforeYear face.date.year
  let weekdayName := (weekdayNames.getD weekday "").toList
  let monthName := (monthNames.getD (face.date.month - 1) "").toList
  let half := if face.hour < 12 then 'a' else 'p'
  match letter with
  | 'a' => some (.text (m.name (weekdayName.take 3)))
  | 'A' => some (.text (m.name weekdayName))
  | 'b' | 'h' => some (.text (m.name (monthName.take 3)))
  | 'B' => some (.text (m.name monthName))
  | 'C' => some (zeros 1 (face.date.year / 100))
  | 'd' => some (zeros 2 face.date.day)
  | 'e' => some (blanks 2 face.date.day)
  | 'g' => some (zeros 2 ((weekOf day).1 % 100))
  | 'G' => some (zeros 1 (weekOf day).1)
  | 'H' => some (zeros 2 face.hour)
  | 'I' => some (zeros 2 (twelveHour face.hour))
  | 'j' => some (zeros 3 (dayOfYear + 1))
  | 'k' => some (blanks 2 face.hour)
  | 'l' => some (blanks 2 (twelveHour face.hour))
  | 'm' => some (zeros 2 face.date.month)
  | 'M' => some (zeros 2 face.minute)
  | 'n' => some (.text ['\n'])
  | 'p' => some (.text (if m.otherCase then [half, 'm'] else [half.toUpper, 'M']))
  | 'P' => some (.text [half, 'm'])
  | 's' => some (.text (toString (shownSeconds z)).toList)
  | 'S' => some (zeros 2 face.second)
  | 't' => some (.text ['\t'])
  | 'u' => some (zeros 1 (weekday + 1))
  | 'U' => some (zeros 2 ((dayOfYear + 7 - (weekday + 1) % 7) / 7))
  | 'V' => some (zeros 2 (weekOf day).2)
  | 'w' => some (zeros 1 ((weekday + 1) % 7))
  | 'W' => some (zeros 2 ((dayOfYear + 7 - weekday) / 7))
  | 'y' => some (zeros 2 (face.date.year % 100))
  | 'Y' => some (zeros 1 face.date.year)
  | '%' => some (.text ['%'])
  | _ => none

/-- The letters that a letter stands for when it stands for several things. -/
def compound? : Char → Option String
  | 'c' => some "a b e H:M:S Y"
  | 'D' | 'x' => some "m/d/y"
  | 'F' => some "Y-m-d"
  | 'r' => some "I:M:S p"
  | 'R' => some "H:M"
  | 'T' | 'X' => some "H:M:S"
  | _ => none

/-- Parts in their usual manner, with what stands between them. -/
def together (z : ZonedTime) (letters : String) : List Char :=
  letters.toList.flatMap fun c =>
    match if c.isAlpha then part? z {} c else none with
    | some part => (part.write {}).expand
    | none => [c]

/-- What a letter stands for.  Offset and clock are those of universal time here: the time's own
have gone before. -/
def meaning? (z : ZonedTime) (m : Manner) (letter : Char) : Option Runs :=
  match compound? letter with
  | some letters =>
      let text := together z letters
      some (m.put (if m.capitals then text.map Char.toUpper else text))
  | none =>
      match letter with
      | 'z' => some (m.put ['+'] ++ (zeros 4 0).write m)
      | 'Z' => some (if m.padding = some .bare then plain "UTC".toList else m.put "UTC".toList)
      | _ => (part? z m letter).map (Part.write m)

/-- The letters that do not go with a modifier. -/
def excluded : Char → String
  | 'E' => "%aAbBdDeFgGhHIjklmMSUVwW"
  | 'O' => "%aAcDFxXY"
  | _ => ""

/-- Whether a letter goes with the modifier before it. -/
def goesWith (letter : Char) (modifier : Option Char) : Bool :=
  modifier.all fun c => !(excluded c).contains letter

/-- A directive that stands for itself; the short name of a month gives it its case. -/
def Directive.asText (d : Directive) : Runs :=
  let capitals := d.manner.capitals || (d.manner.otherCase && d.letter.any (['b', 'h'].contains ·))
  d.manner.put (if capitals then d.source.map Text.upperChar else d.source)

/-- A directive, written out. -/
def Directive.write (z : ZonedTime) (d : Directive) : Runs :=
  let meaning := d.letter.bind fun letter =>
    if goesWith letter d.modifier then meaning? z d.manner letter else none
  meaning.getD d.asText

/-- A part of a pattern, written out. -/
def Piece.write (z : ZonedTime) : Piece → Runs
  | .char c => [(c, 1)]
  | .directive d => d.write z

/-! ### A time's own marks -/

/-- An offset as a sign, hours and minutes. -/
def shortOffset (offset : Int) : String :=
  (if offset < 0 then "-" else "+") ++ paddedNat 2 (offset.natAbs / 3600) ++
    paddedNat 2 (offset.natAbs / 60 % 60)

/-- A pattern with the marks of a time's own written out. -/
def ownMarks (z : ZonedTime) : List Char → List Char
  | '%' :: 'z' :: rest => (shortOffset z.clock.offset).toList ++ ownMarks z rest
  | '%' :: 'Z' :: rest => z.clock.name.toList ++ ownMarks z rest
  | '%' :: 'f' :: rest => (paddedNat 6 z.time.face.micro).toList ++ ownMarks z rest
  | '%' :: c :: rest => '%' :: c :: ownMarks z rest
  | c :: rest => c :: ownMarks z rest
  | [] => []

/-- The least of the lengths `least`, twice `least` and so on that is at least `n`; `fuel` bounds
the doublings. -/
def roomFor : Nat → Nat → Nat → Nat
  | 0, least, _ => least
  | fuel + 1, least, n => if n ≤ least then least else roomFor fuel (2 * least) n

/-- The room that a pattern of some length has: at least so many times its length. -/
def room (length : Nat) : Nat := roomFor length 1024 (256 * length)

/-- A time in a pattern, which ends at its first null character. -/
def format (z : ZonedTime) (pattern : List Char) : List Char :=
  let marked := ownMarks z (pattern.takeWhile (· ≠ '\x00'))
  let runs : Runs := (pieces marked.length marked).flatMap (Piece.write z)
  if runs.size < room marked.length then runs.expand else []

end Pattern

/-- The text of a time in a pattern. -/
def ZonedTime.format (z : ZonedTime) (pattern : String) : String :=
  String.ofList (Pattern.format z pattern.toList)

end NodeInventory
