import NodeInventory.Proofs.Discovery.Settings

/-!
# The polling interval of a configuration

An accepted configuration has the polling interval that was given, or five seconds when none was
given.  The check of a given interval lets two values pass that are no number above zero: null,
which counts as no interval there but is not filled in either, and a float that is no number, which
is not at or below zero.  With any other value the interval is a number above zero,
`loaded_interval_positive_iff`.
-/

namespace NodeInventory

/-! ### Numbers above zero -/

theorem Number.le_zero_eq_false {x : Number} :
    x.le (ofInt 0) = false ↔ x = .nan ∨ (ofInt 0).lt x = true := by
  cases x <;> simp [le, ofInt]

/-- A value is a number above zero, truth values counting as one and zero. -/
def Value.IsPositive (v : Value) : Prop :=
  ∃ x, v.number? = some x ∧ (Number.ofInt 0).lt x = true

/-- The two values that the check of an interval takes for an interval without their being a number
above zero. -/
def Value.IsUnset (v : Value) : Prop := v = .null ∨ v = .float .nan

theorem Value.isNull_iff {v : Value} : v.isNull = true ↔ v = .null := by
  cases v <;> simp [isNull]

theorem Value.number?_eq_nan {v : Value} : v.number? = some .nan ↔ v = .float .nan := by
  cases v <;> simp [number?, Number.ofInt]

theorem Value.isUnset_iff {v : Value} :
    v.isNull = true ∨ v.number? = some .nan ↔ v.IsUnset := by
  rw [IsUnset, isNull_iff, number?_eq_nan]

instance (v : Value) : Decidable v.IsUnset := decidable_of_iff _ Value.isUnset_iff

theorem Value.IsPositive.not_unset {v : Value} (positive : v.IsPositive) : ¬v.IsUnset := by
  obtain ⟨x, number, above⟩ := positive
  rintro (rfl | rfl)
  · cases number
  · cases number
    cases above

namespace Config

/-! ### The check of an interval -/

theorem checkInterval_eq_ok {interval : Value} :
    checkInterval interval = .ok () ↔ interval.IsUnset ∨ interval.IsPositive := by
  unfold checkInterval Value.IsUnset Value.IsPositive
  by_cases null_ : interval.isNull
  · obtain rfl := Value.isNull_iff.mp null_
    simp [Value.isNull]
  · have given : interval ≠ .null := fun same => null_ (Value.isNull_iff.mpr same)
    rw [if_neg null_, ← Value.number?_eq_nan]
    cases interval.number? with
    | none => simp [given]
    | some x =>
        have passes := Number.le_zero_eq_false (x := x)
        cases below : x.le (Number.ofInt 0) <;> simpa [given, below] using passes

/-! ### The interval that is given -/

/-- The polling interval in a configuration, if it has one. -/
def intervalOf (config : Value) : Option Value := do
  let discovery ← Fields.find? (← config.fields?) "discovery"
  Fields.find? (← discovery.fields?) "poll_interval_seconds"

theorem intervalOf_object {fields discovery : Fields}
    (found : sectionOf fields "discovery" = .object discovery) :
    intervalOf (.object fields) = Fields.find? discovery "poll_interval_seconds" := by
  unfold sectionOf at found
  unfold intervalOf
  cases given : Fields.find? fields "discovery" with
  | none =>
      rw [given] at found
      cases found
      simp [Value.fields?, given, Fields.find?]
  | some section_ =>
      rw [given] at found
      obtain rfl : section_ = .object discovery := found
      simp [Value.fields?, given]

/-- An accepted configuration has the interval that was given, or five seconds, and that is a number
above zero unless one of the two was given. -/
theorem accepted_interval {content config : Value} (accepted : accept content = .ok config) :
    ∃ (interval : Value) (d : Discoverer),
      intervalOf config = some interval ∧ interval = (intervalOf content).getD (.int 5) ∧
      Discoverer.ofConfig config = .ok d ∧ d.plan.interval = interval ∧
      (interval.IsPositive ↔ ∀ given, intervalOf content = some given → ¬given.IsUnset) := by
  obtain ⟨fields, swis, discovery, checked, s, filled, rfl⟩ := accept_eq_ok.mp accepted
  have own : intervalOf content = Fields.find? discovery "poll_interval_seconds" := by
    rw [checked.fields_eq]
    exact intervalOf_object checked.discovery_eq
  have section_eq : sectionOf (s.into fields) "discovery" =
      .object (discovery.filled discoveryDefaults) := by
    have made := filled.discovery
    rw [checked.discovery_eq, fillSection_object] at made
    rw [sectionOf, s.find?_into, ← Except.ok.inj made]
    rfl
  have found : Fields.find? (discovery.filled discoveryDefaults) "poll_interval_seconds" =
      some ((intervalOf content).getD (.int 5)) := by
    rw [own, Fields.find?_filled]
    cases Fields.find? discovery "poll_interval_seconds" <;> rfl
  refine ⟨_, _, (intervalOf_object section_eq).trans found, rfl,
    Discoverer.ofConfig_eq_ok.mpr ⟨_, section_eq, rfl⟩, ?_, ?_⟩
  · rw [Discoverer.ofSections, found]
    rfl
  · have passes := checked.interval
    rw [← own] at passes
    cases given : intervalOf content with
    | none =>
        have positive : (Value.int 5).IsPositive := ⟨_, rfl, by decide⟩
        simpa using positive
    | some v =>
        rw [given] at passes
        have sound : v.IsPositive ↔ ¬v.IsUnset :=
          ⟨Value.IsPositive.not_unset, (checkInterval_eq_ok.mp passes).resolve_left⟩
        simpa using sound

/-- A configuration that is read from a file has a polling interval, with which its discoveries
wait, and the interval is a number above zero exactly if the file gives neither null nor what is no
number for it. -/
theorem loaded_interval_positive_iff {path : String} {place : Place} {config : Value}
    (loaded : load path place = .ok config) :
    ∃ (text : String) (content interval : Value) (d : Discoverer),
      place = .file text ∧ Yaml.read text.toList = .ok content ∧
      intervalOf config = some interval ∧ interval = (intervalOf content).getD (.int 5) ∧
      Discoverer.ofConfig config = .ok d ∧ d.plan.interval = interval ∧
      (interval.IsPositive ↔ ∀ given, intervalOf content = some given → ¬given.IsUnset) := by
  cases place with
  | nothing => cases loaded
  | directory => cases loaded
  | file text =>
      obtain ⟨content, read, accepted⟩ := Outcome.bind_eq_ok.mp loaded
      obtain ⟨interval, d, holds⟩ := accepted_interval accepted
      exact ⟨text, content, interval, d, rfl, read, holds⟩

/-- A file that names a server and an account, and gives a polling interval. -/
def intervalFile (interval : String) : String :=
  accountLines ++ "discovery:\n  poll_interval_seconds: " ++ interval ++ "\n"

theorem accepted_of_unset {text : String}
    (unset : ((load defaultPath (.file text)).toOption.bind intervalOf).any (decide ·.IsUnset) =
      true) :
    ∃ config interval, load defaultPath (.file text) = .ok config ∧
      intervalOf config = some interval ∧ ¬interval.IsPositive := by
  obtain ⟨interval, found, unset⟩ := (Option.any_eq_true ..).mp unset
  obtain ⟨config, loaded, found⟩ := Option.bind_eq_some_iff.mp found
  exact ⟨config, interval, Outcome.eq_ok_of_toOption loaded, found,
    fun positive => positive.not_unset (of_decide_eq_true unset)⟩

/-- A file that gives null, or what is no number, for the interval is accepted as it is. -/
theorem unset_interval_accepted :
    (∃ config interval, load defaultPath (.file (intervalFile "null")) = .ok config ∧
      intervalOf config = some interval ∧ ¬interval.IsPositive) ∧
    (∃ config interval, load defaultPath (.file (intervalFile ".nan")) = .ok config ∧
      intervalOf config = some interval ∧ ¬interval.IsPositive) :=
  ⟨accepted_of_unset (by decide +kernel), accepted_of_unset (by decide +kernel)⟩

/-- An interval without end is a number above zero. -/
theorem loaded_interval_positive_iff_endless : ∃ config,
    load defaultPath (.file (intervalFile ".inf")) = .ok config ∧
    ∃ (text : String) (content interval : Value) (d : Discoverer),
      Place.file (intervalFile ".inf") = .file text ∧ Yaml.read text.toList = .ok content ∧
      intervalOf config = some interval ∧ interval = (intervalOf content).getD (.int 5) ∧
      Discoverer.ofConfig config = .ok d ∧ d.plan.interval = interval ∧
      (interval.IsPositive ↔ ∀ given, intervalOf content = some given → ¬given.IsUnset) := by
  obtain ⟨config, loaded⟩ := Option.isSome_iff_exists.mp
    (show (load defaultPath (.file (intervalFile ".inf"))).toOption.isSome = true by decide +kernel)
  have loaded := Outcome.eq_ok_of_toOption loaded
  exact ⟨config, loaded, loaded_interval_positive_iff loaded⟩

end Config

end NodeInventory
