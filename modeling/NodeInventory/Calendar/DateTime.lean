import NodeInventory.Calendar.Date
import NodeInventory.Decimal.Fixed

/-!
# Date-times

A date-time is a number of microseconds on the clock of its place, counted from the beginning of
the year 1 and ending with the year 9999, and the offset of that clock from universal time when it
is known.  Going back in time moves the clock and keeps the offset.
-/

namespace NodeInventory

def microsPerSecond : Nat := 1000000

def microsPerDay : Nat := 86400000000

/-- The number of microseconds from the year 1 to the end of the year 9999. -/
def calendarLength : Nat := daysBeforeYear 10000 * microsPerDay

theorem calendarLength_pos : 0 < calendarLength := by decide

/-- A date-time. -/
structure DateTime where
  /-- The microseconds since the beginning of the year 1, by the local clock. -/
  micros : Nat
  /-- How many seconds the local clock is ahead of universal time. -/
  offset : Option Int := none
  inRange : micros < calendarLength

/-- The parts of a date-time that a clock and a calendar show. -/
structure ClockFace where
  date : Date
  hour : Nat
  minute : Nat
  second : Nat
  micro : Nat
  deriving DecidableEq, Repr

namespace DateTime

/-- The date-time a number of microseconds on the local clock after the beginning of the year 1. -/
def ofMicros? (micros : Int) (offset : Option Int) : Option DateTime :=
  if h : micros.toNat < calendarLength then
    if 0 ≤ micros then some ⟨micros.toNat, offset, h⟩ else none
  else none

/-- The date-time `span` microseconds earlier on the same clock, within the calendar. -/
def back? (t : DateTime) (span : Int) : Option DateTime := ofMicros? (t.micros - span) t.offset

/-- The day of a date-time. -/
def day (t : DateTime) : Nat := t.micros / microsPerDay

/-- What a clock and a calendar show. -/
def face (t : DateTime) : ClockFace :=
  let ofDay := t.micros % microsPerDay
  let seconds := ofDay / microsPerSecond
  { date := Date.ofDay t.day
    hour := seconds / 3600
    minute := seconds / 60 % 60
    second := seconds % 60
    micro := ofDay % microsPerSecond }

/-- The date-time of a clock face that the calendar has. -/
def ofFace? (f : ClockFace) (offset : Option Int) : Option DateTime :=
  if f.date.exists? && f.hour < 24 && f.minute < 60 && f.second < 60 && f.micro < microsPerSecond then
    ofMicros?
      (f.date.toDay * microsPerDay +
        ((f.hour * 60 + f.minute) * 60 + f.second) * microsPerSecond + f.micro) offset
  else none

/-- The timestamp that a statement compares a time column with: whole seconds, no offset, and the
year without padding. -/
def stamp (t : DateTime) : String :=
  let f := t.face
  toString f.date.year ++ "-" ++ paddedNat 2 f.date.month ++ "-" ++ paddedNat 2 f.date.day ++ "T" ++
    paddedNat 2 f.hour ++ ":" ++ paddedNat 2 f.minute ++ ":" ++ paddedNat 2 f.second

/-- An offset as a sign, hours, minutes and, when there are any, seconds. -/
def offsetText (offset : Int) : String :=
  let seconds := offset.natAbs
  (if offset < 0 then "-" else "+") ++ paddedNat 2 (seconds / 3600) ++ ":" ++
    paddedNat 2 (seconds / 60 % 60) ++
    (if seconds % 60 = 0 then "" else ":" ++ paddedNat 2 (seconds % 60))

/-- The full text of a date-time: four-digit year, microseconds when there are any, and the offset
when it is known. -/
def text (t : DateTime) : String :=
  let f := t.face
  paddedNat 4 f.date.year ++ "-" ++ paddedNat 2 f.date.month ++ "-" ++ paddedNat 2 f.date.day ++
    "T" ++ paddedNat 2 f.hour ++ ":" ++ paddedNat 2 f.minute ++ ":" ++ paddedNat 2 f.second ++
    (if f.micro = 0 then "" else "." ++ paddedNat 6 f.micro) ++
    (match t.offset with
      | some offset => offsetText offset
      | none => "")

/-! ### Reading -/

/-- The value of a run of ASCII digits. -/
def digits? (cs : List Char) : Option Nat :=
  cs.foldlM (fun n c => if c.isDigit then some (10 * n + (c.toNat - '0'.toNat)) else none) 0

/-- The microseconds of a fraction: its first six digits. -/
def fraction? (cs : List Char) : Option Nat :=
  if cs.isEmpty then none
  else (digits? cs).bind fun _ => digits? ((cs ++ List.replicate 6 '0').take 6)

/-- An offset: nothing at all, or a sign and hours, minutes and perhaps seconds. -/
def readOffset? (cs : List Char) : Option (Option Int) :=
  match cs with
  | [] => some none
  | sign :: h :: h' :: ':' :: m :: m' :: rest => do
      let seconds ← match rest with
        | [] => some 0
        | [':', s, s'] => digits? [s, s']
        | _ => none
      let total := ((← digits? [h, h']) * 60 + (← digits? [m, m'])) * 60 + seconds
      if sign = '+' then some (some total)
      else if sign = '-' then some (some (-(total : Int)))
      else none
  | _ => none

/-- What follows the seconds: perhaps a fraction, perhaps an offset. -/
def readTail? (cs : List Char) : Option (Nat × Option Int) :=
  match cs with
  | '.' :: rest => do
      let micro ← fraction? (rest.takeWhile Char.isDigit)
      some (micro, ← readOffset? (rest.dropWhile Char.isDigit))
  | _ => do some (0, ← readOffset? cs)

/-- The date-time that a text denotes. -/
def read? (s : String) : Option DateTime :=
  match s.toList with
  | y :: y' :: y'' :: y''' :: '-' :: mo :: mo' :: '-' :: d :: d' :: 'T' ::
      h :: h' :: ':' :: mi :: mi' :: ':' :: s :: s' :: tail => do
      let (micro, offset) ← readTail? tail
      ofFace?
        { date := ⟨← digits? [y, y', y'', y'''], ← digits? [mo, mo'], ← digits? [d, d']⟩
          hour := ← digits? [h, h']
          minute := ← digits? [mi, mi']
          second := ← digits? [s, s']
          micro := micro } offset
  | _ => none

end DateTime

end NodeInventory
