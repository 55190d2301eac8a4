import NodeInventory.Calendar.DateTime
import Mathlib.Algebra.GroupWithZero.Nat
import Mathlib.Algebra.Order.BigOperators.Group.List
import Mathlib.Algebra.Order.Group.Nat
import Mathlib.Data.List.GetD
import Mathlib.Logic.Function.Iterate

/-!
# The calendar, day by day

The calendar goes from one day to the next: to the next day of the month, else to the first of the
next month, else to the first day of the next year (`Date.next`).  Counting days from the first one
on, as dates and day numbers do it by arithmetic on years, months and leap days, is the same
(`Date.ofDay_eq_iterate`, `Date.toDay_iterate`), so that a clock face is shown at exactly one moment
(`ClockFace.ShownAt.unique`), and a date-time shows the face of its moment
(`DateTime.face_shownAt`).
-/

namespace NodeInventory

/-! ### Years -/

/-- The number of days of a year. -/
def yearLength (year : Nat) : Nat := if isLeap year then 366 else 365

theorem isLeap_iff {year : Nat} :
    isLeap year = true ↔ 4 ∣ year ∧ (¬100 ∣ year ∨ 400 ∣ year) := by
  simp [isLeap, Nat.dvd_iff_mod_eq_zero]

theorem daysBeforeYear_add_one (past : Nat) :
    daysBeforeYear (past + 1) = 365 * past + past / 4 - past / 100 + past / 400 := rfl

theorem daysBeforeYear_succ {year : Nat} (counted : 1 ≤ year) :
    daysBeforeYear (year + 1) = daysBeforeYear year + yearLength year := by
  obtain ⟨past, rfl⟩ : ∃ past, year = past + 1 := ⟨year - 1, by omega⟩
  have rare : past / 100 ≤ past / 4 := by omega
  have century : 4 ∣ 100 := by decide
  have era : 100 ∣ 400 := by decide
  rw [daysBeforeYear_add_one, daysBeforeYear_add_one, yearLength]
  -- a quotient grows by one when the new year is a multiple of the divisor
  simp only [Nat.succ_div, isLeap_iff]
  by_cases four : 4 ∣ past + 1
  · by_cases hundred : 100 ∣ past + 1
    · by_cases fourHundred : 400 ∣ past + 1
      · simp [four, hundred, fourHundred]
        omega
      · simp [four, hundred, fourHundred]
        omega
    · have fourHundred : ¬400 ∣ past + 1 := mt (Nat.dvd_trans era) hundred
      simp [four, hundred, fourHundred]
      omega
  · have hundred : ¬100 ∣ past + 1 := mt (Nat.dvd_trans century) four
    have fourHundred : ¬400 ∣ past + 1 := mt (Nat.dvd_trans era) hundred
    simp [four, hundred, fourHundred]
    omega

theorem daysBeforeYear_mono : Monotone daysBeforeYear := by
  refine monotone_nat_of_le_succ fun year => ?_
  cases year with
  | zero => decide
  | succ past =>
      have later : daysBeforeYear (past + 1 + 1) =
          daysBeforeYear (past + 1) + yearLength (past + 1) := daysBeforeYear_succ (by omega)
      omega

/-- A day lies in its year. -/
theorem yearOf_spec (day : Nat) :
    daysBeforeYear (yearOf day) ≤ day ∧ day < daysBeforeYear (yearOf day + 1) := by
  have low : daysBeforeYear (400 * day / 146097 + 1) ≤ day := by
    rw [daysBeforeYear_add_one]
    omega
  have high : day < daysBeforeYear (400 * day / 146097 + 2 + 1) := by
    rw [daysBeforeYear_add_one]
    omega
  unfold yearOf
  dsimp only
  rw [if_neg (Nat.not_lt.mpr low)]
  split
  case isTrue next => exact ⟨next, high⟩
  case isFalse same => exact ⟨low, Nat.not_le.mp same⟩

theorem yearOf_eq {day year : Nat} (begun : daysBeforeYear year ≤ day)
    (lasts : day < daysBeforeYear (year + 1)) : yearOf day = year := by
  obtain ⟨begun', lasts'⟩ := yearOf_spec day
  have upper : yearOf day < year + 1 :=
    daysBeforeYear_mono.reflect_lt (Nat.lt_of_le_of_lt begun' lasts)
  have lower : year < yearOf day + 1 :=
    daysBeforeYear_mono.reflect_lt (Nat.lt_of_le_of_lt begun lasts')
  omega

namespace Date

/-! ### Months -/

/-- The number of days of a month. -/
def monthLength (year month : Nat) : Nat := (monthLengths year).getD (month - 1) 0

theorem daysBeforeMonth_eq (year month : Nat) :
    daysBeforeMonth year month = ((monthLengths year).take (month - 1)).sum := rfl

theorem index_lt (year : Nat) {month : Nat} (counted : 1 ≤ month) (last : month ≤ 12) :
    month - 1 < (monthLengths year).length := by
  show month - 1 < 12
  omega

theorem monthLength_eq (year : Nat) {month : Nat} (bound : month - 1 < (monthLengths year).length) :
    monthLength year month = (monthLengths year)[month - 1] :=
  List.getD_eq_getElem _ _ bound

theorem daysBeforeMonth_succ (year : Nat) {month : Nat} (counted : 1 ≤ month) (last : month ≤ 12) :
    daysBeforeMonth year (month + 1) = daysBeforeMonth year month + monthLength year month := by
  have bound := index_lt year counted last
  have later : month + 1 - 1 = month - 1 + 1 := by omega
  rw [daysBeforeMonth_eq, daysBeforeMonth_eq, monthLength_eq year bound, later,
    List.sum_take_succ _ _ bound]

theorem daysBeforeMonth_thirteen (year : Nat) : daysBeforeMonth year 13 = yearLength year := by
  unfold yearLength
  cases leap : isLeap year <;> simp [daysBeforeMonth, monthLengths, leap]

theorem monthAndDay_sum : ∀ {lengths : List Nat} {index : Nat} (month : Nat) {day : Nat}
    (inside : index < lengths.length), day < lengths[index] →
    monthAndDay month lengths ((lengths.take index).sum + day) = (month + index, day + 1)
  | length :: rest, 0, month, day, _, short => by
      have first : day < length := short
      rw [List.take_zero, List.sum_nil, Nat.zero_add, monthAndDay, if_pos first]
      rfl
  | length :: rest, index + 1, month, day, inside, short => by
      have bound : index < rest.length := Nat.lt_of_succ_lt_succ inside
      have later := monthAndDay_sum (month + 1) bound short
      rw [List.take_succ_cons, List.sum_cons, monthAndDay, if_neg (by omega), Nat.add_assoc,
        Nat.add_sub_cancel_left, later, Nat.add_right_comm, Nat.add_assoc]

/-! ### Days -/

/-- A date of the calendar, in whatever year. -/
structure Proper (d : Date) : Prop where
  year_pos : 1 ≤ d.year
  month_pos : 1 ≤ d.month
  month_le : d.month ≤ 12
  day_pos : 1 ≤ d.day
  day_le : d.day ≤ monthLength d.year d.month

/-- The first day of the year 1. -/
def first : Date := ⟨1, 1, 1⟩

/-- The day after another one. -/
def next (d : Date) : Date :=
  if d.day < monthLength d.year d.month then { d with day := d.day + 1 }
  else if d.month < 12 then ⟨d.year, d.month + 1, 1⟩
  else ⟨d.year + 1, 1, 1⟩

theorem monthLength_mem (year : Nat) {month : Nat} (counted : 1 ≤ month) (last : month ≤ 12) :
    monthLength year month ∈ monthLengths year := by
  have bound := index_lt year counted last
  rw [monthLength_eq year bound]
  exact List.getElem_mem bound

theorem monthLength_pos (year : Nat) {month : Nat} (counted : 1 ≤ month) (last : month ≤ 12) :
    1 ≤ monthLength year month := by
  have all : ∀ length ∈ monthLengths year, 1 ≤ length := by
    unfold monthLengths
    cases isLeap year <;> decide
  exact all _ (monthLength_mem year counted last)

theorem monthLength_le (year : Nat) {month : Nat} (counted : 1 ≤ month) (last : month ≤ 12) :
    monthLength year month ≤ 31 := by
  have all : ∀ length ∈ monthLengths year, length ≤ 31 := by
    unfold monthLengths
    cases isLeap year <;> decide
  exact all _ (monthLength_mem year counted last)

theorem proper_first : first.Proper := ⟨by decide, by decide, by decide, by decide, by decide⟩

section proper

variable {d : Date}

theorem Proper.next (h : d.Proper) : d.next.Proper := by
  have january : 1 ≤ 12 := by decide
  unfold Date.next
  split
  case isTrue inside => exact ⟨h.year_pos, h.month_pos, h.month_le, Nat.succ_pos _, inside⟩
  split
  case isTrue earlier =>
    exact ⟨h.year_pos, Nat.succ_pos _, earlier, Nat.le_refl 1,
      monthLength_pos _ (Nat.succ_pos _) earlier⟩
  case isFalse =>
    exact ⟨Nat.succ_pos _, Nat.le_refl 1, january, Nat.le_refl 1,
      monthLength_pos _ (Nat.le_refl 1) january⟩

/-- The day after a date has the next number. -/
theorem Proper.toDay_next (h : d.Proper) : d.next.toDay = d.toDay + 1 := by
  obtain ⟨year_pos, month_pos, month_le, day_pos, day_le⟩ := h
  have begins (year : Nat) : daysBeforeMonth year 1 = 0 := rfl
  have ended := daysBeforeMonth_succ d.year month_pos month_le
  unfold Date.next toDay
  split
  case isTrue =>
    dsimp only
    omega
  split
  case isTrue =>
    dsimp only
    omega
  case isFalse =>
    have december : d.month + 1 = 13 := by omega
    rw [december, daysBeforeMonth_thirteen] at ended
    have later := daysBeforeYear_succ year_pos
    dsimp only
    rw [begins]
    omega

theorem Proper.toDay_mem_year (h : d.Proper) :
    daysBeforeYear d.year ≤ d.toDay ∧ d.toDay < daysBeforeYear (d.year + 1) := by
  obtain ⟨year_pos, month_pos, month_le, day_pos, day_le⟩ := h
  have ended := daysBeforeMonth_succ d.year month_pos month_le
  have whole : daysBeforeMonth d.year (d.month + 1) ≤ yearLength d.year := by
    rw [← daysBeforeMonth_thirteen]
    exact (List.take_sublist_take_left (by omega)).sum_le_sum fun _ _ => Nat.zero_le _
  have later := daysBeforeYear_succ year_pos
  unfold toDay
  constructor <;> omega

/-- The date of the number of a date is that date. -/
theorem Proper.ofDay_toDay (h : d.Proper) : ofDay d.toDay = d := by
  obtain ⟨begun, lasts⟩ := h.toDay_mem_year
  obtain ⟨year_pos, month_pos, month_le, day_pos, day_le⟩ := h
  have bound := index_lt d.year month_pos month_le
  rw [monthLength_eq d.year bound] at day_le
  have short : d.day - 1 < (monthLengths d.year)[d.month - 1] := by omega
  have past : d.toDay - daysBeforeYear d.year =
      ((monthLengths d.year).take (d.month - 1)).sum + (d.day - 1) := by
    rw [← daysBeforeMonth_eq, toDay]
    omega
  have month_eq : 1 + (d.month - 1) = d.month := by omega
  have day_eq : d.day - 1 + 1 = d.day := by omega
  unfold ofDay
  simp only [yearOf_eq begun lasts, past, monthAndDay_sum 1 bound short, month_eq, day_eq]

end proper

/-! ### Counting from the first day on -/

theorem proper_iterate (n : Nat) : (Date.next^[n] first).Proper := by
  induction n with
  | zero => exact proper_first
  | succ n ih =>
      rw [Function.iterate_succ_apply']
      exact ih.next

theorem toDay_iterate (n : Nat) : (Date.next^[n] first).toDay = n := by
  induction n with
  | zero => rfl
  | succ n ih => rw [Function.iterate_succ_apply', (proper_iterate n).toDay_next, ih]

/-- The date of a number is reached from the first day in so many steps. -/
theorem ofDay_eq_iterate (n : Nat) : ofDay n = Date.next^[n] first := by
  have same := (proper_iterate n).ofDay_toDay
  rwa [toDay_iterate] at same

theorem year_iterate_le (n year : Nat) :
    (Date.next^[n] first).year ≤ year ↔ n < daysBeforeYear (year + 1) := by
  obtain ⟨begun, lasts⟩ := (proper_iterate n).toDay_mem_year
  rw [toDay_iterate] at begun lasts
  constructor
  · intro early
    exact Nat.lt_of_lt_of_le lasts (daysBeforeYear_mono (Nat.succ_le_succ early))
  · intro before
    exact Nat.le_of_lt_succ (daysBeforeYear_mono.reflect_lt (Nat.lt_of_le_of_lt begun before))

end Date

/-! ### Clock faces -/

/-- A clock face is shown so many microseconds after the beginning of the year 1: its date is that
of some day counted from the first one on, and its hours, minutes, seconds and microseconds have
passed since the beginning of that day. -/
def ClockFace.ShownAt (f : ClockFace) (micros : Nat) : Prop :=
  ∃ days, f.date = Date.next^[days] Date.first ∧ f.hour < 24 ∧ f.minute < 60 ∧ f.second < 60 ∧
    f.micro < 1000000 ∧
    micros = (((days * 24 + f.hour) * 60 + f.minute) * 60 + f.second) * 1000000 + f.micro

theorem ClockFace.ShownAt.unique {f : ClockFace} {m n : Nat} (h : f.ShownAt m) (h' : f.ShownAt n) :
    m = n := by
  obtain ⟨days, date, -, -, -, -, rfl⟩ := h
  obtain ⟨days', date', -, -, -, -, rfl⟩ := h'
  have same : days = days' := by
    rw [← Date.toDay_iterate days, ← Date.toDay_iterate days', ← date, ← date']
  rw [same]

/-- A clock face lies in the years up to 9999 exactly if it is shown before the calendar ends. -/
theorem ClockFace.ShownAt.year_le_iff {f : ClockFace} {m : Nat} (h : f.ShownAt m) :
    f.date.year ≤ 9999 ↔ m < calendarLength := by
  obtain ⟨days, date, hour, minute, second, micro, rfl⟩ := h
  have years : (Date.next^[days] Date.first).year ≤ 9999 ↔ days < daysBeforeYear 10000 :=
    Date.year_iterate_le days 9999
  rw [date, years, calendarLength, microsPerDay]
  omega

namespace DateTime

/-- A date-time shows the clock face of its moment. -/
theorem face_shownAt (t : DateTime) : t.face.ShownAt t.micros := by
  refine ⟨t.day, Date.ofDay_eq_iterate t.day, ?_⟩
  simp only [face, day, microsPerDay, microsPerSecond]
  omega

theorem face_proper (t : DateTime) : t.face.date.Proper := by
  obtain ⟨days, date, -⟩ := t.face_shownAt
  rw [date]
  exact Date.proper_iterate days

end DateTime

end NodeInventory
