import NodeInventory.Proofs.Calendar.Gregorian
import NodeInventory.Query.Window

/-!
# Windows that reach back from now

A window of some hours reaches back from now by the clock that now is shown on: it begins at the
date-time whose clock face is shown exactly so many microseconds earlier, and has no end
(`ReachesBack`).  There is no such window if the span is longer than spans are, or if no clock face
of the years 1 to 9999 is shown at that moment.  A window of days is one of 24 times as many hours,
and neither of them looks at a start and an end that are given with it: `relative_windows_exact`.
-/

namespace NodeInventory

/-! ### Earlier on the same clock -/

/-- A clock face is shown so many microseconds before another one. -/
def ClockFace.Precedes (f : ClockFace) (span : Int) (g : ClockFace) : Prop :=
  ∃ m n : Nat, f.ShownAt m ∧ g.ShownAt n ∧ (m : Int) = n - span

/-- A clock face of the years 1 to 9999. -/
def ClockFace.InYears (f : ClockFace) : Prop := 1 ≤ f.date.year ∧ f.date.year ≤ 9999

namespace DateTime

variable {t s : DateTime} {span : Int}

theorem face_inYears (t : DateTime) : t.face.InYears :=
  ⟨t.face_proper.year_pos, t.face_shownAt.year_le_iff.mpr t.inRange⟩

theorem precedes_face {f : ClockFace} :
    f.Precedes span t.face ↔ ∃ m : Nat, f.ShownAt m ∧ (m : Int) = t.micros - span := by
  constructor
  · rintro ⟨m, n, shown, now, earlier⟩
    rw [now.unique t.face_shownAt] at earlier
    exact ⟨m, shown, earlier⟩
  · rintro ⟨m, shown, earlier⟩
    exact ⟨m, t.micros, shown, t.face_shownAt, earlier⟩

theorem face_precedes_face : s.face.Precedes span t.face ↔ (s.micros : Int) = t.micros - span := by
  rw [precedes_face]
  constructor
  · rintro ⟨m, shown, earlier⟩
    rwa [shown.unique s.face_shownAt] at earlier
  · intro earlier
    exact ⟨s.micros, s.face_shownAt, earlier⟩

theorem back?_eq_none :
    t.back? span = none ↔
      (t.micros : Int) - span < 0 ∨ (calendarLength : Int) ≤ t.micros - span := by
  have positive := calendarLength_pos
  unfold back? ofMicros?
  split
  case isTrue inside =>
    split
    case isTrue from_ =>
      simp only [reduceCtorEq, false_iff]
      omega
    case isFalse before =>
      simp only [true_iff]
      omega
  case isFalse outside =>
    simp only [true_iff]
    omega

theorem back?_eq_some (back : t.back? span = some s) :
    s.offset = t.offset ∧ (s.micros : Int) = t.micros - span := by
  unfold back? ofMicros? at back
  split at back
  case isTrue =>
    split at back
    case isTrue from_ =>
      obtain rfl := Option.some.inj back
      exact ⟨rfl, Int.toNat_of_nonneg from_⟩
    case isFalse => cases back
  case isFalse => cases back

/-- Going back fails exactly if no clock face of the years 1 to 9999 is shown so long before. -/
theorem back?_eq_none_iff :
    t.back? span = none ↔ ¬∃ f : ClockFace, f.InYears ∧ f.Precedes span t.face := by
  constructor
  · rintro left ⟨f, ⟨-, last⟩, precedes⟩
    obtain ⟨m, shown, earlier⟩ := precedes_face.mp precedes
    have inside := shown.year_le_iff.mp last
    have outside := back?_eq_none.mp left
    omega
  · intro missing
    cases back : t.back? span with
    | none => rfl
    | some s =>
        have earlier := (back?_eq_some back).2
        exact absurd ⟨s.face, s.face_inYears, face_precedes_face.mpr earlier⟩ missing

end DateTime

/-! ### Spans -/

/-- A number of microseconds is not too long for a span: it has at most 999999999 whole days in
magnitude, a part of a day before the beginning counting as one. -/
def Span.Fits (micros : Int) : Prop := (micros / 86400000000).natAbs ≤ 999999999

instance (micros : Int) : Decidable (Span.Fits micros) := inferInstanceAs (Decidable (_ ≤ _))

theorem Span.ofMicros_eq (micros : Int) :
    ofMicros micros = if Fits micros then .ok micros else .error .outOfRange := by
  have floor : Int.fdiv micros TimeUnit.day.micros = micros / 86400000000 :=
    Int.fdiv_eq_ediv_of_nonneg _ (by decide)
  unfold ofMicros Fits
  rw [floor]
  rfl

namespace Window

/-! ### Windows -/

/-- What becomes of a window that reaches back some microseconds from now: it fails exactly if the
span is too long, or if so long before now there is nothing in the years 1 to 9999; otherwise it
begins at the date-time on now's clock that is shown so long before now, and has no end. -/
structure ReachesBack (now : DateTime) (span : Int)
    (outcome : Outcome (Option DateTime × Option DateTime)) : Prop where
  fails_iff : outcome = .error .outOfRange ↔
    ¬Span.Fits span ∨ ¬∃ f : ClockFace, f.InYears ∧ f.Precedes span now.face
  begins : outcome ≠ .error .outOfRange → ∃ start : DateTime, outcome = .ok (some start, none) ∧
    start.offset = now.offset ∧ start.face.Precedes span now.face

/-- The window that reaches back some microseconds. -/
def reaching (now : DateTime) (micros : Int) : Outcome (Option DateTime × Option DateTime) :=
  Span.ofMicros micros >>= fun span =>
    match now.back? span with
    | some start => .ok (some start, none)
    | none => .error .outOfRange

theorem reaching_reachesBack (now : DateTime) (micros : Int) :
    ReachesBack now micros (reaching now micros) := by
  have unfolded : reaching now micros = if Span.Fits micros then
      match now.back? micros with
      | some start => .ok (some start, none)
      | none => .error .outOfRange
      else .error .outOfRange := by
    rw [reaching, Span.ofMicros_eq]
    split <;> rfl
  rw [unfolded]
  by_cases fits : Span.Fits micros
  · rw [if_pos fits]
    cases back : now.back? micros with
    | none =>
        have nothing := DateTime.back?_eq_none_iff.mp back
        exact ⟨iff_of_true rfl (.inr nothing), fun other => absurd rfl other⟩
    | some start =>
        obtain ⟨offset, earlier⟩ := DateTime.back?_eq_some back
        have precedes := DateTime.face_precedes_face.mpr earlier
        refine ⟨iff_of_false nofun ?_, fun _ => ⟨start, rfl, offset, precedes⟩⟩
        rintro (long | nothing)
        · exact long fits
        · exact nothing ⟨start.face, start.face_inYears, precedes⟩
  · rw [if_neg fits]
    exact ⟨iff_of_true rfl (.inl fits), fun other => absurd rfl other⟩

theorem truthy_int {n : Int} (nonzero : n ≠ 0) : (Value.int n).truthy = true := by
  simpa [Value.truthy] using nonzero

theorem resolve_hours {h : Int} (nonzero : h ≠ 0) (days : Value) (start stop : Option DateTime)
    (now : DateTime) :
    resolve ⟨.int h, days, start, stop⟩ now = reaching now (h * 3600000000) := by
  have given := truthy_int nonzero
  unfold resolve
  rw [isRelative, given, Bool.true_or, if_pos rfl, span, given, if_pos rfl]
  rfl

theorem resolve_days {d : Int} (nonzero : d ≠ 0) {hours : Value} (none_ : hours.truthy = false)
    (start stop : Option DateTime) (now : DateTime) :
    resolve ⟨hours, .int d, start, stop⟩ now = reaching now (d * 86400000000) := by
  have given := truthy_int nonzero
  unfold resolve
  rw [isRelative, none_, given, Bool.false_or, if_pos rfl, span, none_, if_neg Bool.false_ne_true]
  rfl

/-- A window of hours reaches back exactly that far, whatever else is given; a window of days with
no hours is one of 24 times as many hours; and a start and an end that are given make no difference
to either. -/
theorem relative_windows_exact (now : DateTime) :
    (∀ h : Int, h ≠ 0 → ∀ (days : Value) (start stop : Option DateTime),
      ReachesBack now (h * 3600000000) (resolve ⟨.int h, days, start, stop⟩ now)) ∧
    (∀ d : Int, d ≠ 0 → ∀ (hours days : Value) (start stop start' stop' : Option DateTime),
      hours.truthy = false →
      resolve ⟨hours, .int d, start, stop⟩ now =
        resolve ⟨.int (24 * d), days, start', stop'⟩ now) ∧
    (∀ h : Int, h ≠ 0 → ∀ (days days' : Value) (start stop start' stop' : Option DateTime),
      resolve ⟨.int h, days, start, stop⟩ now = resolve ⟨.int h, days', start', stop'⟩ now) ∧
    (∀ d : Int, d ≠ 0 → ∀ (hours : Value) (start stop start' stop' : Option DateTime),
      hours.truthy = false →
      resolve ⟨hours, .int d, start, stop⟩ now = resolve ⟨hours, .int d, start', stop'⟩ now) := by
  refine ⟨?_, ?_, ?_, ?_⟩
  · intro h nonzero days start stop
    rw [resolve_hours nonzero]
    exact reaching_reachesBack now _
  · intro d nonzero hours days start stop start' stop' none_
    have more : 24 * d ≠ 0 := by omega
    have same : 24 * d * 3600000000 = d * 86400000000 := by omega
    rw [resolve_days nonzero none_, resolve_hours more, same]
  · intro h nonzero days days' start stop start' stop'
    rw [resolve_hours nonzero, resolve_hours nonzero]
  · intro d nonzero hours start stop start' stop' none_
    rw [resolve_days nonzero none_, resolve_days nonzero none_]

/-- Half an hour after midnight on the day after a leap day. -/
def leapNight : DateTime := ⟨63844849800000000, some 3600, by decide⟩

/-- An hour and a day reach back across the end of a leap day. -/
theorem relative_windows_exact_leap :
    leapNight.face = ⟨⟨2024, 3, 1⟩, 0, 30, 0, 0⟩ ∧
    (∃ start : DateTime, resolve ⟨.int 1, .null, none, none⟩ leapNight = .ok (some start, none) ∧
      start.offset = some 3600 ∧ start.face = ⟨⟨2024, 2, 29⟩, 23, 30, 0, 0⟩) ∧
    resolve ⟨.null, .int 1, some leapNight, none⟩ leapNight =
      resolve ⟨.int 24, .int 5, none, some leapNight⟩ leapNight := by
  obtain ⟨hours, days, -, -⟩ := relative_windows_exact leapNight
  have returns : (resolve ⟨.int 1, .null, none, none⟩ leapNight).isOk = true := by decide +kernel
  have found : resolve ⟨.int 1, .null, none, none⟩ leapNight ≠ .error .outOfRange := by
    intro failed
    rw [failed] at returns
    cases returns
  obtain ⟨⟨micros, offset, inRange⟩, found, same, precedes⟩ :=
    (hours 1 (by decide) .null none none).begins found
  obtain rfl : micros = 63844846200000000 := by
    have earlier := DateTime.face_precedes_face.mp precedes
    simp only [leapNight] at earlier
    omega
  obtain rfl : offset = some 3600 := same
  have shown : (DateTime.mk 63844846200000000 (some 3600) (by decide)).face =
      ⟨⟨2024, 2, 29⟩, 23, 30, 0, 0⟩ := by decide +kernel
  exact ⟨by decide +kernel, ⟨_, found, rfl, shown⟩,
    days 1 (by decide) .null (.int 5) (some leapNight) none none (some leapNight) rfl⟩

end Window

end NodeInventory
