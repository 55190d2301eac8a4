/-!
# Days and dates

The proleptic Gregorian calendar from the first day of the year 1 on.  A day is a number, counted
from that first one; a date is a year, a month and a day of the month.
-/

namespace NodeInventory

/-- Whether a year has 366 days. -/
def isLeap (year : Nat) : Bool := year % 4 == 0 && (year % 100 != 0 || year % 400 == 0)

/-- The number of days before the first day of a year. -/
def daysBeforeYear (year : Nat) : Nat :=
  let past := year - 1
  365 * past + past / 4 - past / 100 + past / 400

/-- The lengths of the months of a year. -/
def monthLengths (year : Nat) : List Nat :=
  [31, if isLeap year then 29 else 28, 31, 30, 31, 30, 31, 31, 30, 31, 30, 31]

/-- The year that a day lies in. -/
def yearOf (day : Nat) : Nat :=
  let guess := 400 * day / 146097 + 1
  if day < daysBeforeYear guess then guess - 1
  else if daysBeforeYear (guess + 1) ≤ day then guess + 1
  else guess

/-- A day of the calendar by its parts, months and days counted from one. -/
structure Date where
  year : Nat
  month : Nat
  day : Nat
  deriving DecidableEq, Repr

namespace Date

/-- The month, counted from `month` on, and the day of the month that `past` days lead to. -/
def monthAndDay (month : Nat) : List Nat → Nat → Nat × Nat
  | [], past => (month, past + 1)
  | length :: rest, past =>
      if past < length then (month, past + 1) else monthAndDay (month + 1) rest (past - length)

/-- The date of a day. -/
def ofDay (day : Nat) : Date :=
  let year := yearOf day
  let (month, dayOfMonth) := monthAndDay 1 (monthLengths year) (day - daysBeforeYear year)
  ⟨year, month, dayOfMonth⟩

/-- The number of days of the year before a month. -/
def daysBeforeMonth (year month : Nat) : Nat := ((monthLengths year).take (month - 1)).foldr (· + ·) 0

/-- The day of a date. -/
def toDay (d : Date) : Nat :=
  daysBeforeYear d.year + daysBeforeMonth d.year d.month + (d.day - 1)

/-- Whether the calendar, up to the year 9999, has a date. -/
def exists? (d : Date) : Bool :=
  1 ≤ d.year && d.year ≤ 9999 && 1 ≤ d.day &&
    match (monthLengths d.year)[d.month - 1]? with
    | some length => 1 ≤ d.month && d.day ≤ length
    | none => false

end Date

/-- The weekday of a day, counted from Monday: the first day of the year 1 is one. -/
def weekdayOf (day : Nat) : Nat := day % 7

end NodeInventory
