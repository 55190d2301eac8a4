import NodeInventory.Calendar.DateTime

/-!
# Time zones

A zone keeps one clock all year, or a standard and a summer clock with the day and time of each
change.  Changes are laid down up to the end of the year `lastYear`; the clock in force then stays.
-/

namespace NodeInventory

/-- A clock: what it is called and how many seconds it is ahead of universal time. -/
structure ZoneClock where
  name : String
  offset : Int
  deriving DecidableEq, Repr

/-- A yearly change of clocks: the `week`-th `weekday` of a month, counted from Monday, the fifth
being the last one, so many seconds after midnight on the clock in force before. -/
structure YearlyChange where
  month : Nat
  week : Nat
  weekday : Nat
  second : Int
  deriving DecidableEq, Repr

/-- The clocks of a zone. -/
inductive ZoneRule where
  | always (clock : ZoneClock)
  | seasonal (standard summer : ZoneClock) (start stop : YearlyChange)
  deriving DecidableEq, Repr

/-- A zone. -/
structure Zone where
  name : String
  rule : ZoneRule
  deriving DecidableEq, Repr

/-- The day on which counting by seconds starts, 1 January 1970. -/
def epochDay : Nat := daysBeforeYear 1970

/-- The last year whose changes are laid down. -/
def lastYear : Nat := 2037

/-- The seconds from the epoch to the beginning of a day. -/
def secondsToDay (day : Nat) : Int := ((day : Int) - epochDay) * 86400

/-- The seconds from the epoch to a change in a year, for the clock in force before. -/
def YearlyChange.seconds (c : YearlyChange) (year : Nat) (before : ZoneClock) : Int :=
  let first := (Date.mk year c.month 1).toDay
  let length := ((monthLengths year)[c.month - 1]?).getD 0
  let toFirst := (c.weekday + 7 - weekdayOf first) % 7
  let day := toFirst + 7 * (c.week - 1)
  secondsToDay (first + if length ≤ day then day - 7 else day) + c.second - before.offset

/-- Whether the summer clock is in force some seconds after the epoch. -/
def ZoneRule.inSummer (rule : ZoneRule) (seconds : Int) : Bool :=
  match rule with
  | .always _ => false
  | .seasonal standard summer start stop =>
      let seconds := min seconds (secondsToDay (daysBeforeYear (lastYear + 1)) - 1)
      let year := yearOf ((seconds + standard.offset) / 86400 + epochDay).toNat
      let start := start.seconds year standard
      let stop := stop.seconds year summer
      if start < stop then decide (start ≤ seconds ∧ seconds < stop)
      else decide (¬(stop ≤ seconds ∧ seconds < start))

/-- The clock in force some seconds after the epoch. -/
def ZoneRule.clockAt (rule : ZoneRule) (seconds : Int) : ZoneClock :=
  match rule with
  | .always clock => clock
  | .seasonal standard summer .. => if rule.inSummer seconds then summer else standard

end NodeInventory
