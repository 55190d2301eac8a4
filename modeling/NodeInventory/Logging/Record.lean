import NodeInventory.Calendar.Pattern
import NodeInventory.Calendar.ZoneTable
import NodeInventory.Decimal.Binary64
import NodeInventory.Logging.Level
import NodeInventory.Logging.Slot
import NodeInventory.Logging.Usable
import NodeInventory.Value.Access

/-!
# Log records

A record was made at a number of seconds after the epoch.  Its time is written on the clock of a
zone; the record itself in a layout.
-/

namespace NodeInventory.Logging

/-- A log record. -/
structure Record where
  created : Value
  name : Value
  level : Value := .int 20
  message : Value := .text ""

/-- The pattern of a record's time unless another one is given. -/
def defaultTimePattern : String := "%Y-%m-%d %H:%M:%S %Z"

/-- The layout of a record unless another one is given. -/
def defaultLayout : String := "%(message)s"

/-- The microseconds of a number of seconds: the whole part exactly, the fraction rounded. -/
def microsOf (seconds : Value) : Outcome Int :=
  match seconds with
  | .float .nan => .error .badValue
  | .float (.infinite _) => .error .outOfRange
  | .float (.finite negative m) =>
      let fraction := ((Binary64.ofMagnitude false ((m - m.floor) * 1000000)).toRat?).getD 0
      let micros : Int := m.floor * 1000000 + halfEven fraction
      .ok (if negative then -micros else micros)
  | .bool b => .ok (if b then 1000000 else 0)
  | .int n => .ok (n * 1000000)
  | _ => .error .wrongType

/-- The largest number of seconds that a clock counts to, in either direction. -/
def secondsLimit : Int := Nat.pow 2 63

/-- The first and the last second whose year can be counted from 1900 in 32 bits. -/
def yearLimits : Int × Int := (-67768040609740800, 67768036191676799)

/-- The time a number of seconds after the epoch, on the clock of a zone. -/
def timeIn (zone : Zone) (seconds : Value) : Outcome ZonedTime := do
  let micros ← microsOf seconds
  let whole := Int.fdiv micros 1000000
  if whole < -secondsLimit || secondsLimit ≤ whole then .error .outOfRange
  else if whole < yearLimits.1 || yearLimits.2 < whole then .error .yearOverflow
  else
    match DateTime.ofMicros? (micros + epochDay * microsPerDay) none with
    | none => .error .badValue
    | some universal =>
        let clock := zone.rule.clockAt whole
        match universal.back? (-(clock.offset * 1000000)) with
        | some time => .ok ⟨time, clock, zone.rule.inSummer whole⟩
        | none => .error .outOfRange

/-- The time of a record in a pattern, the usual one when none is given. -/
def Record.timeText (r : Record) (zone : Zone) (pattern : Value) : Outcome String := do
  let time ← timeIn zone r.created
  if pattern.truthy then
    match pattern with
    | .text s => pure (time.format s)
    | _ => .error .wrongType
  else pure (time.format defaultTimePattern)

/-- What names stand for in a layout.  Nothing is known of where a record was made, and its message
is complete. -/
def Record.fields (r : Record) (timeText : Option String) : Fields :=
  [("name", r.name), ("msg", r.message), ("args", .text "()"), ("levelname", levelName r.level),
    ("levelno", r.level), ("pathname", .text ""), ("filename", .text ""), ("module", .text ""),
    ("exc_info", .null), ("exc_text", .null), ("stack_info", .null), ("lineno", .int 0),
    ("funcName", .null), ("created", r.created), ("threadName", .text "MainThread"),
    ("processName", .text "MainProcess"), ("message", .text r.message.shown)] ++
      timeText.toList.map fun text => ("asctime", .text text)

/-- The name of the field for a record's time, with what surrounds it. -/
def timeMark : List Char := "%(asctime)".toList

/-- A layout that can be used: one with a field. -/
def layoutOf (layout : Value) : Outcome String :=
  if layout.truthy then
    match layout with
    | .text s => if isUsable s.toList then .ok s else .error .badValue
    | _ => .error .wrongType
  else .ok defaultLayout

/-- A record in a layout.  Its time is written beforehand when the layout mentions it anywhere. -/
def Record.format (r : Record) (zone : Zone) (layout : String) : Outcome String := do
  let cs := layout.toList
  let timeText ←
    if Value.occursIn timeMark cs then some <$> r.timeText zone .null else pure none
  let fields := r.fields timeText
  return String.ofList (← fill fields (some (.object fields)) (pieces cs.length cs))

end NodeInventory.Logging
