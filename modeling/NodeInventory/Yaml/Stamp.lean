import NodeInventory.Calendar.DateTime
import NodeInventory.Text.Digit

/-!
# Dates and times in documents

A date is written with dashes.  A time may follow after the letter T or blanks, with a fraction of
a second and with an offset, which is the letter Z or a sign and hours and perhaps minutes.
-/

namespace NodeInventory.Yaml

/-- What the digits of a date and a time denote. -/
structure Stamp where
  date : Date
  /-- Hour, minute and second, when there is a time. -/
  time : Option (Nat × Nat × Nat) := none
  /-- The digits of the fraction. -/
  fraction : List Char := []
  /-- The minutes that the clock is ahead of universal time, when that is known. -/
  offset : Option Int := none

namespace Stamp

/-- A number of at least and at most so many digits at the start of a text, and the rest. -/
def digits? (least most : Nat) (cs : List Char) : Option (Nat × List Char) :=
  let ds := (cs.take most).takeWhile Char.isDigit
  if least ≤ ds.length then some (Text.asciiNumber ds, cs.drop ds.length) else none

/-- The rest of a text after a character. -/
def after? (c : Char) : List Char → Option (List Char)
  | ch :: rest => if ch = c then some rest else none
  | [] => none

/-- An offset in minutes after the blanks before it, or none at the end of a text. -/
def offset? (cs : List Char) : Option (Option Int) :=
  match cs.dropWhile fun c => c = ' ' || c = '\t' with
  | [] => if cs.isEmpty then some none else none
  | ['Z'] => some (some 0)
  | sign :: rest => do
      let (hours, rest) ← digits? 1 2 rest
      let (minutes, rest) ← if rest.isEmpty then some (0, []) else digits? 2 2 (← after? ':' rest)
      let total : Int := hours * 60 + minutes
      if !rest.isEmpty then none
      else if sign = '+' then some (some total)
      else if sign = '-' then some (some (-total))
      else none

/-- A time after what divides it from the date. -/
def withTime? (date : Date) (cs : List Char) : Option Stamp := do
  let (hour, rest) ← digits? 1 2 cs
  let (minute, rest) ← digits? 2 2 (← after? ':' rest)
  let (second, rest) ← digits? 2 2 (← after? ':' rest)
  let (fraction, rest) := match rest with
    | '.' :: rest => (rest.takeWhile Char.isDigit, rest.dropWhile Char.isDigit)
    | _ => ([], rest)
  some ⟨date, some (hour, minute, second), fraction, ← offset? rest⟩

/-- The date, perhaps with a time, that a text is written as. -/
def read? (cs : List Char) : Option Stamp := do
  let (year, rest) ← digits? 4 4 cs
  let (month, monthRest) ← digits? 1 2 (← after? '-' rest)
  let (day, rest) ← digits? 1 2 (← after? '-' monthRest)
  match rest with
  | [] => if cs.length = 10 then some ⟨⟨year, month, day⟩, none, [], none⟩ else none
  | c :: after =>
      if c = 'T' ∨ c = 't' then withTime? ⟨year, month, day⟩ after
      else if c = ' ' ∨ c = '\t' then
        withTime? ⟨year, month, day⟩ (after.dropWhile fun c => c = ' ' || c = '\t')
      else none

/-- The minutes of a day, which no offset reaches. -/
def dayMinutes : Int := 1440

/-- The text of a date and a time that the calendar has. -/
def text? (s : Stamp) : Option String :=
  let (hour, minute, second) := s.time.getD (0, 0, 0)
  let micro := Text.asciiNumber ((s.fraction ++ List.replicate 6 '0').take 6)
  if s.offset.any fun minutes => minutes ≤ -dayMinutes || dayMinutes ≤ minutes then none
  else do
    let t ← DateTime.ofFace? ⟨s.date, hour, minute, second, micro⟩ (s.offset.map (· * 60))
    some (if s.time.isSome then t.text else String.ofList (t.text.toList.take 10))

end Stamp

end NodeInventory.Yaml
