import NodeInventory.Proofs.Query.Selection
import NodeInventory.Proofs.Query.Windows
import NodeInventory.Proofs.Text.Padded

/-!
# Timestamps in the order of time

The timestamp in a statement says what the clock shows, up to whole seconds (`readStamp?_stamp`).
From the year 1000 on all timestamps are of one width, and in the order of their characters they
are in the order of time (`wideStamp_lt_iff`): the year, the month and the day make a larger number
every day (`Date.rank_strictMono`), and so do the hours, minutes and seconds within it.  A column of
such texts therefore satisfies the bindings of a window exactly if its time lies in the window,
`windows_order_like_time`.
-/

namespace NodeInventory

/-! ### Whole seconds -/

namespace ClockFace

/-- What is shown without the parts of a second. -/
def wholeSeconds (f : ClockFace) : ClockFace := { f with micro := 0 }

/-- A face is shown before another one. -/
def Earlier (f g : ClockFace) : Prop := ∃ m n : Nat, f.ShownAt m ∧ g.ShownAt n ∧ m < n

/-- A face is shown before another one or is the same. -/
def UpTo (f g : ClockFace) : Prop := ∃ m n : Nat, f.ShownAt m ∧ g.ShownAt n ∧ m ≤ n

end ClockFace

namespace DateTime

/-- The whole seconds since the beginning of the year 1. -/
def seconds (t : DateTime) : Nat := t.micros / 1000000

variable {t t' : DateTime}

theorem wholeSeconds_shownAt (t : DateTime) :
    t.face.wholeSeconds.ShownAt (t.seconds * 1000000) := by
  obtain ⟨days, date, hour, minute, second, micro, same⟩ := t.face_shownAt
  refine ⟨days, date, hour, minute, second, Nat.zero_lt_succ _, ?_⟩
  show t.micros / 1000000 * 1000000 =
    (((days * 24 + t.face.hour) * 60 + t.face.minute) * 60 + t.face.second) * 1000000 + 0
  omega

theorem wholeSeconds_related {r : Nat → Nat → Prop} :
    (∃ m n : Nat, t.face.wholeSeconds.ShownAt m ∧ t'.face.wholeSeconds.ShownAt n ∧ r m n) ↔
      r (t.seconds * 1000000) (t'.seconds * 1000000) := by
  constructor
  · rintro ⟨m, n, shown, shown', related⟩
    rwa [shown.unique t.wholeSeconds_shownAt, shown'.unique t'.wholeSeconds_shownAt] at related
  · intro related
    exact ⟨_, _, t.wholeSeconds_shownAt, t'.wholeSeconds_shownAt, related⟩

theorem earlier_iff :
    t.face.wholeSeconds.Earlier t'.face.wholeSeconds ↔ t.seconds < t'.seconds :=
  wholeSeconds_related.trans (Nat.mul_lt_mul_right (by decide))

theorem upTo_iff : t.face.wholeSeconds.UpTo t'.face.wholeSeconds ↔ t.seconds ≤ t'.seconds :=
  wholeSeconds_related.trans (Nat.mul_le_mul_right_iff (by decide))

end DateTime

/-! ### Reading a timestamp -/

/-- What a timestamp says: the digits of the year, and two digits for each other part. -/
def readStamp? (s : String) : Option ClockFace :=
  let year := s.toList.takeWhile Char.isDigit
  match s.toList.dropWhile Char.isDigit with
  | ['-', mo, mo', '-', d, d', 'T', h, h', ':', mi, mi', ':', s, s'] => do
      some
        { date := ⟨← DateTime.digits? year, ← DateTime.digits? [mo, mo'],
            ← DateTime.digits? [d, d']⟩
          hour := ← DateTime.digits? [h, h']
          minute := ← DateTime.digits? [mi, mi']
          second := ← DateTime.digits? [s, s']
          micro := 0 }
  | _ => none

theorem digits?_eq {cs : List Char} (digits : AllDigits cs) :
    DateTime.digits? cs = some (Nat.ofDigitChars 10 cs 0) := by
  have onwards : ∀ (cs : List Char) (n : Nat), AllDigits cs →
      cs.foldlM (fun n c => if c.isDigit then some (10 * n + (c.toNat - '0'.toNat)) else none) n =
        some (Nat.ofDigitChars 10 cs n) := by
    intro cs
    induction cs with
    | nil => exact fun n _ => rfl
    | cons c cs ih =>
        intro n digits
        rw [List.foldlM_cons, if_pos (digits c List.mem_cons_self), Nat.ofDigitChars_cons]
        exact ih _ fun c member => digits c (List.mem_cons_of_mem _ member)
  exact onwards cs 0 digits

theorem twoDigits {n : Nat} (fits : n < 100) :
    ∃ c c', (paddedNat 2 n).toList = [c, c'] ∧ DateTime.digits? [c, c'] = some n := by
  obtain ⟨c, c', same⟩ := List.length_eq_two.mp (length_paddedNat (by decide) fits)
  refine ⟨c, c', same, ?_⟩
  rw [← same, digits?_eq (allDigits_paddedNat 2 n), number_paddedNat]

/-- The parts of a clock face have at most two digits, apart from the year. -/
structure ClockFace.TwoDigits (f : ClockFace) : Prop where
  month : f.date.month < 100
  day : f.date.day < 100
  hour : f.hour < 100
  minute : f.minute < 100
  second : f.second < 100

theorem DateTime.face_twoDigits (t : DateTime) : t.face.TwoDigits := by
  obtain ⟨days, -, hour, minute, second, -⟩ := t.face_shownAt
  have proper := t.face_proper
  have month := proper.month_le
  have day := proper.day_le
  have length := Date.monthLength_le t.face.date.year proper.month_pos month
  exact ⟨by omega, by omega, by omega, by omega, by omega⟩

/-- A timestamp says what the clock shows, up to whole seconds. -/
theorem readStamp?_stamp (t : DateTime) : readStamp? t.stamp = some t.face.wholeSeconds := by
  have fits := t.face_twoDigits
  obtain ⟨mo, mo', month, readMonth⟩ := twoDigits fits.month
  obtain ⟨d, d', day, readDay⟩ := twoDigits fits.day
  obtain ⟨h, h', hour, readHour⟩ := twoDigits fits.hour
  obtain ⟨mi, mi', minute, readMinute⟩ := twoDigits fits.minute
  obtain ⟨s, s', second, readSecond⟩ := twoDigits fits.second
  have written : t.stamp.toList = (toString t.face.date.year).toList ++
      ['-', mo, mo', '-', d, d', 'T', h, h', ':', mi, mi', ':', s, s'] := by
    simp only [DateTime.stamp, String.toList_append, month, day, hour, minute, second]
    simp
  have digits := allDigits_toString t.face.date.year
  have readYear : DateTime.digits? (toString t.face.date.year).toList =
      some t.face.date.year := by
    rw [digits?_eq digits]
    simp
  have dash : ¬Char.isDigit '-' = true := by decide
  rw [readStamp?, written, List.takeWhile_append_of_pos digits, List.dropWhile_append_of_pos digits,
    List.takeWhile_cons_of_neg dash, List.dropWhile_cons_of_neg dash, List.append_nil]
  simp only [readYear, readMonth, readDay, readHour, readMinute, readSecond]
  rfl

/-! ### Dates in order -/

namespace Date

/-- The number that the digits of a date make, two for the month and two for the day. -/
def rank (d : Date) : Nat := (d.year * 100 + d.month) * 100 + d.day

theorem Proper.rank_next {d : Date} (h : d.Proper) : d.rank < d.next.rank := by
  have length := monthLength_le d.year h.month_pos h.month_le
  have day := h.day_le
  have month := h.month_le
  unfold Date.next rank
  split
  · dsimp only; omega
  split
  · dsimp only; omega
  · dsimp only; omega

theorem rank_lt_iff {d e : Date} (month : d.month < 100) (day : d.day < 100)
    (month' : e.month < 100) (day' : e.day < 100) :
    d.rank < e.rank ↔ d.year < e.year ∨ d.year = e.year ∧
      (d.month < e.month ∨ d.month = e.month ∧ d.day < e.day) := by
  unfold rank
  omega

theorem rank_eq_iff {d e : Date} (month : d.month < 100) (day : d.day < 100)
    (month' : e.month < 100) (day' : e.day < 100) :
    d.rank = e.rank ↔ d.year = e.year ∧ d.month = e.month ∧ d.day = e.day := by
  unfold rank
  omega

/-- Every day makes a larger number than the day before. -/
theorem rank_strictMono : StrictMono fun n => (Date.next^[n] first).rank :=
  strictMono_nat_of_lt_succ fun n => by
    rw [Function.iterate_succ_apply']
    exact (proper_iterate n).rank_next

end Date

/-! ### Timestamps in order -/

namespace DateTime

variable {t t' : DateTime}

/-- The timestamp of a date-time with the year in four digits. -/
def wideStamp (t : DateTime) : String :=
  let f := t.face
  paddedNat 4 f.date.year ++ "-" ++ paddedNat 2 f.date.month ++ "-" ++ paddedNat 2 f.date.day ++
    "T" ++ paddedNat 2 f.hour ++ ":" ++ paddedNat 2 f.minute ++ ":" ++ paddedNat 2 f.second

theorem stamp_eq_wideStamp (late : 1000 ≤ t.face.date.year) : t.stamp = t.wideStamp := by
  have year : toString t.face.date.year = paddedNat 4 t.face.date.year := by
    have long : ¬(Nat.toDigits 10 t.face.date.year).length ≤ 3 := by
      rw [Nat.length_toDigits_le_iff (by decide) (by decide)]
      omega
    have none_ : 4 - (Nat.toDigits 10 t.face.date.year).length = 0 := by omega
    rw [paddedNat, padZeros, none_, List.replicate_zero, List.nil_append]
    exact Nat.toString_eq_ofList_toDigits
  rw [stamp, wideStamp, year]

theorem seconds_eq (t : DateTime) : ∃ days, t.face.date = Date.next^[days] Date.first ∧
    t.seconds = ((days * 24 + t.face.hour) * 60 + t.face.minute) * 60 + t.face.second := by
  obtain ⟨days, date, -, -, -, micro, same⟩ := t.face_shownAt
  refine ⟨days, date, ?_⟩
  unfold seconds
  omega

theorem wideStamp_lt_iff_parts : t.wideStamp < t'.wideStamp ↔
    t.face.date.year < t'.face.date.year ∨ t.face.date.year = t'.face.date.year ∧
    (t.face.date.month < t'.face.date.month ∨ t.face.date.month = t'.face.date.month ∧
    (t.face.date.day < t'.face.date.day ∨ t.face.date.day = t'.face.date.day ∧
    (t.face.hour < t'.face.hour ∨ t.face.hour = t'.face.hour ∧
    (t.face.minute < t'.face.minute ∨ t.face.minute = t'.face.minute ∧
      t.face.second < t'.face.second)))) := by
  have year : t.face.date.year < 10 ^ 4 := Nat.lt_succ_of_le t.face_inYears.2
  have year' : t'.face.date.year < 10 ^ 4 := Nat.lt_succ_of_le t'.face_inYears.2
  have fits := t.face_twoDigits
  have fits' := t'.face_twoDigits
  have dash : "-".toList = ['-'] := rfl
  have letter : "T".toList = ['T'] := rfl
  have colon : ":".toList = [':'] := rfl
  rw [String.lt_iff_toList_lt]
  simp only [wideStamp, String.toList_append, List.append_assoc, dash, letter, colon,
    List.cons_append, List.nil_append]
  rw [paddedNat_append_lt_iff (by decide) year year', List.cons_lt_cons_self,
    paddedNat_append_lt_iff (by decide) fits.month fits'.month, List.cons_lt_cons_self,
    paddedNat_append_lt_iff (by decide) fits.day fits'.day, List.cons_lt_cons_self,
    paddedNat_append_lt_iff (by decide) fits.hour fits'.hour, List.cons_lt_cons_self,
    paddedNat_append_lt_iff (by decide) fits.minute fits'.minute, List.cons_lt_cons_self,
    paddedNat_lt_iff (by decide) fits.second fits'.second]

/-- Timestamps with the year in four digits are in the order of time. -/
theorem wideStamp_lt_iff : t.wideStamp < t'.wideStamp ↔ t.seconds < t'.seconds := by
  obtain ⟨days, date, seconds⟩ := t.seconds_eq
  obtain ⟨days', date', seconds'⟩ := t'.seconds_eq
  obtain ⟨-, -, hour, minute, second, -⟩ := t.face_shownAt
  obtain ⟨-, -, hour', minute', second', -⟩ := t'.face_shownAt
  have fits := t.face_twoDigits
  have fits' := t'.face_twoDigits
  have earlier := Date.rank_lt_iff fits.month fits.day fits'.month fits'.day
  have same := Date.rank_eq_iff fits.month fits.day fits'.month fits'.day
  -- the parts of the dates compare as the days do, and the rest is arithmetic
  have before : t.face.date.rank < t'.face.date.rank ↔ days < days' := by
    rw [date, date']
    exact Date.rank_strictMono.lt_iff_lt
  have together : t.face.date.rank = t'.face.date.rank ↔ days = days' := by
    rw [date, date']
    exact Date.rank_strictMono.injective.eq_iff
  rw [wideStamp_lt_iff_parts, seconds, seconds']
  clear date date' fits fits' seconds seconds'
  omega

theorem wideStamp_le_iff : t.wideStamp ≤ t'.wideStamp ↔ t.seconds ≤ t'.seconds := by
  rw [← not_lt, ← not_lt, wideStamp_lt_iff]

end DateTime

/-! ### Columns of timestamps -/

/-- Texts in the order of their characters, in every column. -/
def textOrder : RowOrder := fun _ s t => s ≤ t

/-- The bindings of a window hold if the column is between the timestamps of its ends. -/
theorem window_holds_iff {field : String} {start stop : DateTime} {order : RowOrder} {row : Row} :
    (∀ b ∈ windowBindings field (some start) (some stop), b.Holds order row) ↔
      order field start.stamp (row field) ∧ order field (row field) stop.stamp := by
  have given : ∀ b ∈ windowBindings field (some start) (some stop), b.given = true := by
    simp [windowBindings, Binding.given]
  have demands := @window_demands order row field (some start) (some stop)
  simp only [Option.some.injEq, forall_eq'] at demands
  rw [← demands]
  exact forall₂_congr fun b member =>
    ⟨fun holds _ => holds, fun demanded => demanded (given b member)⟩

/-- The text in a binding of a window can be read back to what the clock shows, up to whole seconds.
From the year 1000 on these texts are in the order of time; and a column that holds a time in the
same form, the year in four digits, satisfies the bindings of a window from then on exactly if that
time is between the ends of the window, both included. -/
theorem windows_order_like_time :
    (∀ (field : String) (t : DateTime),
      windowBindings field (some t) none = [⟨field, .ge, [t.stamp]⟩] ∧
      windowBindings field none (some t) = [⟨field, .le, [t.stamp]⟩] ∧
      readStamp? t.stamp = some t.face.wholeSeconds) ∧
    (∀ t t' : DateTime, 1000 ≤ t.face.date.year → 1000 ≤ t'.face.date.year →
      (t.stamp < t'.stamp ↔ t.face.wholeSeconds.Earlier t'.face.wholeSeconds)) ∧
    (∀ c : DateTime, 1000 ≤ c.face.date.year → c.stamp = c.wideStamp) ∧
    (∀ (field : String) (start stop c : DateTime) (row : Row),
      1000 ≤ start.face.date.year → 1000 ≤ stop.face.date.year → row field = c.wideStamp →
      ((∀ b ∈ windowBindings field (some start) (some stop), b.Holds textOrder row) ↔
        start.face.wholeSeconds.UpTo c.face.wholeSeconds ∧
          c.face.wholeSeconds.UpTo stop.face.wholeSeconds)) := by
  refine ⟨fun field t => ⟨rfl, rfl, readStamp?_stamp t⟩, fun t t' late late' => ?_,
    fun c late => DateTime.stamp_eq_wideStamp late,
    fun field start stop c row late late' column => ?_⟩
  · rw [DateTime.stamp_eq_wideStamp late, DateTime.stamp_eq_wideStamp late',
      DateTime.wideStamp_lt_iff, DateTime.earlier_iff]
  · rw [window_holds_iff, column, DateTime.stamp_eq_wideStamp late,
      DateTime.stamp_eq_wideStamp late', DateTime.upTo_iff, DateTime.upTo_iff]
    exact and_congr DateTime.wideStamp_le_iff DateTime.wideStamp_le_iff

/-- Half a second before the year 2000. -/
def yearsEnd : DateTime := ⟨63082281599500000, none, by decide⟩

/-- A quarter of a second into the year 2000. -/
def yearsBeginning : DateTime := ⟨63082281600250000, some 3600, by decide⟩

/-- The year 2000 begins after a second of which no fraction is told. -/
theorem windows_order_like_time_newYear :
    yearsEnd.face.wholeSeconds = ⟨⟨1999, 12, 31⟩, 23, 59, 59, 0⟩ ∧
    yearsBeginning.face.wholeSeconds = ⟨⟨2000, 1, 1⟩, 0, 0, 0, 0⟩ ∧
    yearsEnd.stamp < yearsBeginning.stamp ∧
    readStamp? yearsEnd.stamp = some yearsEnd.face.wholeSeconds ∧
    ¬∀ b ∈ windowBindings "EventTime" (some yearsBeginning) (some yearsBeginning),
      b.Holds textOrder fun _ => yearsEnd.stamp := by
  obtain ⟨read, order, wide, window⟩ := windows_order_like_time
  have late : 1000 ≤ yearsEnd.face.date.year := by decide +kernel
  have late' : 1000 ≤ yearsBeginning.face.date.year := by decide +kernel
  have earlier : yearsEnd.face.wholeSeconds.Earlier yearsBeginning.face.wholeSeconds :=
    DateTime.earlier_iff.mpr (by decide)
  refine ⟨by decide +kernel, by decide +kernel, (order _ _ late late').mpr earlier,
    (read "EventTime" yearsEnd).2.2, fun holds => ?_⟩
  have inside := (window "EventTime" yearsBeginning yearsBeginning yearsEnd _ late' late'
    (wide _ late)).mp holds
  exact absurd (DateTime.upTo_iff.mp inside.1) (by decide)

/-- Three digits of a year come after four: the last moment of the year 999 and the first of the
year 1000. -/
example : ¬(DateTime.mk 31525372799999999 none (by decide)).stamp <
    (DateTime.mk 31525372800000000 none (by decide)).stamp := by
  decide +kernel

end NodeInventory
