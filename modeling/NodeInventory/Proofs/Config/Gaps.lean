import NodeInventory.Proofs.Config.EmptySections

/-!
# What the defaults of a configuration leave alone

Defaults only fill gaps.  A section that is filled keeps every field that it has, whatever is in
it, and gets those of its defaults whose keys it lacks, after its own (`FillsGaps`); a configuration
that is filled gets its missing sections after its own keys, and apart from its sections it stays as
it is (`FillsSections`).  So there is nothing left to fill in a filled configuration, and since no
default speaks of what has to be given, and none makes a check fail, it is as valid as it was before
(`defaults_fill_gaps`).
-/

namespace NodeInventory

namespace Fields

/-! ### Writing a field -/

theorem has_eq_true {fields : Fields} {key : String} :
    has fields key = true ↔ key ∈ fields.map Prod.fst := by
  induction fields with
  | nil => simp [has, find?]
  | cons entry rest ih =>
      obtain ⟨name, v⟩ := entry
      rw [has] at ih
      rw [has, find?, List.map_cons, List.mem_cons]
      by_cases same : name = key
      · simp [same]
      · rw [if_neg same, ih, or_iff_right (Ne.symm same)]

theorem put_of_find? {fields : Fields} {key : String} {v : Value}
    (found : find? fields key = some v) : put fields key v = fields := by
  induction fields with
  | nil => cases found
  | cons entry rest ih =>
      obtain ⟨name, old⟩ := entry
      rw [find?] at found
      rw [put]
      by_cases same : name = key
      · rw [if_pos same] at found ⊢
        rw [Option.some.inj found]
      · rw [if_neg same] at found ⊢
        rw [ih found]

theorem keys_put (fields : Fields) (key : String) (v : Value) :
    (put fields key v).map Prod.fst =
      fields.map Prod.fst ++ if has fields key then [] else [key] := by
  induction fields with
  | nil => rfl
  | cons entry rest ih =>
      obtain ⟨name, old⟩ := entry
      rw [has] at ih
      rw [put, has, find?]
      by_cases same : name = key
      · rw [if_pos same, if_pos same]
        simp
      · rw [if_neg same, if_neg same, List.map_cons, ih]
        rfl

theorem has_put (fields : Fields) (key k : String) (v : Value) :
    has (put fields key v) k = (key == k || has fields k) := by
  rw [has, find?_put]
  by_cases same : key = k
  · simp [same]
  · simp [same, has]

/-! ### Filling twice -/

theorem has_filled (fields defaults : Fields) (key : String) :
    has (fields.filled defaults) key = (has fields key || has defaults key) := by
  rw [has, find?_filled, Option.isSome_or]
  rfl

/-- Fields that have all the keys of some defaults are filled. -/
theorem filled_eq_self {defaults : Fields} : ∀ {fields : Fields},
    (∀ key ∈ defaults.map Prod.fst, has fields key = true) → filled fields defaults = fields := by
  induction defaults with
  | nil => exact fun _ => rfl
  | cons entry rest ih =>
      obtain ⟨key, default⟩ := entry
      intro fields present
      rw [List.map_cons, List.forall_mem_cons] at present
      rw [filled, if_pos present.1]
      exact ih present.2

theorem filled_filled (fields defaults : Fields) :
    filled (fields.filled defaults) defaults = fields.filled defaults := by
  refine filled_eq_self fun key listed => ?_
  rw [has_filled, has_eq_true.mpr listed, Bool.or_true]

/-- Filling adds the keys of the defaults that are missing, in their order, after those that are
there. -/
theorem keys_filled {defaults : Fields} : ∀ {fields : Fields}, (defaults.map Prod.fst).Nodup →
    (fields.filled defaults).map Prod.fst =
      fields.map Prod.fst ++ (defaults.map Prod.fst).filter fun key => !has fields key := by
  induction defaults with
  | nil =>
      intro fields _
      simp [filled]
  | cons entry rest ih =>
      obtain ⟨key, default⟩ := entry
      intro fields distinct
      obtain ⟨(fresh : key ∉ rest.map Prod.fst), distinct⟩ := List.nodup_cons.mp distinct
      rw [filled, List.map_cons]
      cases present : has fields key with
      | true =>
          rw [if_pos rfl, ih distinct, List.filter_cons_of_neg (by simp [present])]
      | false =>
          have others : (rest.map Prod.fst).filter (fun k => !has (put fields key default) k) =
              (rest.map Prod.fst).filter fun k => !has fields k := by
            refine List.filter_congr fun k listed => ?_
            have other : key ≠ k := by
              rintro rfl
              exact fresh listed
            rw [has_put, beq_eq_false_iff_ne.mpr other, Bool.false_or]
          rw [if_neg Bool.false_ne_true, ih distinct, others, keys_put, present,
            List.filter_cons_of_pos (by simp [present]), if_neg Bool.false_ne_true,
            List.append_assoc]
          rfl

end Fields

namespace Config

/-! ### What filling leaves alone -/

/-- A section fills the gaps of a given one: it has every field of the given one as it was, else
those of the defaults, each of them, and its keys are the given ones and after them those of the
defaults that were missing. -/
structure FillsGaps (given defaults filled : Fields) : Prop where
  kept : ∀ key v, Fields.find? given key = some v → Fields.find? filled key = some v
  added : ∀ key v, Fields.find? given key = none → Fields.find? defaults key = some v →
    Fields.find? filled key = some v
  present : ∀ key ∈ defaults.map Prod.fst, Fields.has filled key = true
  keys : filled.map Prod.fst =
    given.map Prod.fst ++ (defaults.map Prod.fst).filter fun key => !Fields.has given key

/-- The sections that have defaults, with them. -/
def sectionDefaults : List (String × Fields) := ("swis", swisDefaults) :: optionalSections

/-- A configuration fills the sections of a given one: each section that has defaults fills the gaps
of the given one, or of an empty one when it was missing; whatever else there is stays as it was;
and the missing sections come after the given keys. -/
structure FillsSections (given filled : Fields) : Prop where
  sections : ∀ entry ∈ sectionDefaults, ∃ before after : Fields,
    sectionOf given entry.1 = .object before ∧
      Fields.find? filled entry.1 = some (.object after) ∧ FillsGaps before entry.2 after
  others : ∀ key, key ∉ sectionDefaults.map Prod.fst →
    Fields.find? filled key = Fields.find? given key
  keys : filled.map Prod.fst =
    given.map Prod.fst ++ optionalNames.filter fun name => !Fields.has given name

theorem filled_fillsGaps (given : Fields) {defaults : Fields}
    (distinct : (defaults.map Prod.fst).Nodup) :
    FillsGaps given defaults (given.filled defaults) where
  kept := by
    intro key v found
    rw [Fields.find?_filled, found, Option.some_or]
  added := by
    intro key v missing default
    rw [Fields.find?_filled, missing, Option.none_or, default]
  present := by
    intro key listed
    rw [Fields.has_filled, Fields.has_eq_true.mpr listed, Bool.or_true]
  keys := Fields.keys_filled distinct

section sections

variable {fields : Fields} {s : Sections}

theorem Sections.Of.sectionOf_swis (h : s.Of fields) :
    sectionOf fields "swis" = .object s.swis := by
  rw [sectionOf, h.swis, Option.getD_some]

theorem Sections.Of.keys_into (h : s.Of fields) :
    (s.filled.into fields).map Prod.fst =
      fields.map Prod.fst ++ optionalNames.filter fun name => !Fields.has fields name := by
  have server : Fields.has fields "swis" = true := by rw [Fields.has, h.swis, Option.isSome_some]
  have names : optionalNames = ["discovery", "interfaces", "logging"] := rfl
  rw [FilledSections.into, names]
  simp only [Fields.keys_put, Fields.has_put, server, List.filter_cons, List.filter_nil]
  cases Fields.has fields "discovery" <;> cases Fields.has fields "interfaces" <;>
    cases Fields.has fields "logging" <;> simp

theorem Sections.Of.fillsSections (h : s.Of fields) :
    FillsSections fields (s.filled.into fields) where
  sections := by
    intro entry listed
    simp only [sectionDefaults, optionalSections, List.mem_cons, List.not_mem_nil,
      or_false] at listed
    rcases listed with rfl | rfl | rfl | rfl
    · exact ⟨_, _, h.sectionOf_swis, s.filled.find?_into fields "swis",
        filled_fillsGaps _ (by decide)⟩
    · exact ⟨_, _, h.discovery, s.filled.find?_into fields "discovery",
        filled_fillsGaps _ (by decide)⟩
    · exact ⟨_, _, h.interfaces, s.filled.find?_into fields "interfaces",
        filled_fillsGaps _ (by decide)⟩
    · exact ⟨_, _, h.logging, s.filled.find?_into fields "logging",
        filled_fillsGaps _ (by decide)⟩
  others := by
    intro key unlisted
    simp only [sectionDefaults, optionalSections, List.map_cons, List.map_nil, List.mem_cons,
      List.not_mem_nil, or_false, not_or] at unlisted
    obtain ⟨swis, discovery, interfaces, logging⟩ := unlisted
    rw [FilledSections.find?_into, if_neg (Ne.symm logging), if_neg (Ne.symm interfaces),
      if_neg (Ne.symm discovery), if_neg (Ne.symm swis)]
  keys := h.keys_into

/-! ### Filling a configuration twice -/

/-- The sections of a configuration that has been filled. -/
def Sections.completed (s : Sections) : Sections where
  swis := s.swis.filled swisDefaults
  discovery := s.discovery.filled discoveryDefaults
  interfaces := s.interfaces.filled interfaceDefaults
  logging := s.logging.filled loggingDefaults

theorem Sections.completed_of (s : Sections) (fields : Fields) :
    s.completed.Of (s.filled.into fields) where
  swis := s.filled.find?_into fields "swis"
  discovery := by
    rw [sectionOf, s.filled.find?_into]
    rfl
  interfaces := by
    rw [sectionOf, s.filled.find?_into]
    rfl
  logging := by
    rw [sectionOf, s.filled.find?_into]
    rfl

theorem Sections.filled_completed (s : Sections) : s.completed.filled = s.filled := by
  simp only [filled, completed, Fields.filled_filled]

theorem FilledSections.into_into (s : FilledSections) (fields : Fields) :
    s.into (s.into fields) = s.into fields := by
  have swis := s.find?_into fields "swis"
  have discovery := s.find?_into fields "discovery"
  have interfaces := s.find?_into fields "interfaces"
  have logging := s.find?_into fields "logging"
  rw [into, Fields.put_of_find? swis, Fields.put_of_find? discovery,
    Fields.put_of_find? interfaces, Fields.put_of_find? logging]

/-- A configuration with its defaults is not changed by giving it its defaults. -/
theorem Sections.applyDefaults_twice (s : Sections) (fields : Fields) :
    applyDefaults (.object (s.filled.into fields)) = .ok (.object (s.filled.into fields)) := by
  rw [(s.completed_of fields).applyDefaults, s.filled_completed, s.filled.into_into]

/-! ### Checking a filled configuration -/

theorem checkRequired_filled (swis : Fields) {defaults : Fields} : ∀ {names : List String},
    (∀ name ∈ names, Fields.find? defaults name = none) →
    checkRequired (.object (swis.filled defaults)) names = checkRequired (.object swis) names
  | [], _ => rfl
  | name :: rest, unset => by
      rw [List.forall_mem_cons] at unset
      have step (section_ : Fields) : checkRequired (.object section_) (name :: rest) =
          if ((Fields.find? section_ name).getD .null).truthy
          then checkRequired (.object section_) rest
          else .error (.missingField "swis" name) := rfl
      rw [step, step, checkRequired_filled swis unset.2, Fields.find?_filled, unset.1,
        Option.or_none]

theorem checkCertificate_filled (swis : Fields) :
    checkCertificate (.object (swis.filled swisDefaults)) = checkCertificate (.object swis) := by
  have looked (section_ : Fields) : checkCertificate (.object section_) =
      if ((Fields.find? section_ "ssl_verify").getD (.bool false)).truthy &&
        ((Fields.find? section_ "ca_cert_path").getD .null).truthy &&
        !((Fields.find? section_ "ca_cert_path").getD .null).isText
      then .error .wrongType else .ok () := rfl
  rw [looked, looked, Fields.find?_filled, Fields.find?_filled]
  cases Fields.find? swis "ssl_verify" <;> cases Fields.find? swis "ca_cert_path" <;> rfl

/-- The interval that is filled in passes its check, as a missing one does. -/
theorem checkInterval_filled (discovery : Fields) :
    checkInterval
        ((Fields.find? (discovery.filled discoveryDefaults) "poll_interval_seconds").getD .null) =
      checkInterval ((Fields.find? discovery "poll_interval_seconds").getD .null) := by
  rw [Fields.find?_filled]
  cases Fields.find? discovery "poll_interval_seconds" with
  | some interval => rfl
  | none =>
      have above : (Number.ofInt 5).le (Number.ofInt 0) = false := by decide +kernel
      show checkInterval (.int 5) = .ok ()
      simp [checkInterval, Value.isNull, Value.number?, above]

/-- A configuration with its defaults is valid, or not valid for the same cause, as it is without
them. -/
theorem Sections.Of.validate_filled (h : s.Of fields) :
    validate (.object (s.filled.into fields)) = validate (.object fields) := by
  have after := s.completed_of fields
  have asked (discovery : Fields) : (Value.object discovery).get "poll_interval_seconds" =
      .ok ((Fields.find? discovery "poll_interval_seconds").getD .null) := rfl
  have required : checkRequired (.object (s.swis.filled swisDefaults)) requiredFields =
      checkRequired (.object s.swis) requiredFields :=
    checkRequired_filled s.swis (by decide +kernel)
  rw [validate_object after.swis, validate_object h.swis, after.discovery, h.discovery]
  show inspect (s.swis.filled swisDefaults) (.object (s.discovery.filled discoveryDefaults)) = _
  rw [inspect, inspect, required, checkCertificate_filled, asked, asked]
  show (_ >>= fun _ => checkInterval _ >>= _) = (_ >>= fun _ => checkInterval _ >>= _)
  rw [checkInterval_filled]

end sections

/-- Defaults only fill gaps.  A configuration whose sections are objects, or missing but for the
server's, can be given its defaults: it keeps what it has and gets what it lacks.  Giving them to it
again changes nothing, and it is as valid as it was. -/
theorem defaults_fill_gaps {fields : Fields} (h : Sectioned fields) :
    ∃ filled : Fields, applyDefaults (.object fields) = .ok (.object filled) ∧
      FillsSections fields filled ∧
      applyDefaults (.object filled) = .ok (.object filled) ∧
      validate (.object filled) = validate (.object fields) := by
  obtain ⟨s, of⟩ := h.sections
  exact ⟨_, of.applyDefaults, of.fillsSections, s.applyDefaults_twice fields, of.validate_filled⟩

/-- A valid configuration with gaps: it gives a port that is null, settings that have no default,
and no section about discovery jobs or logging. -/
def gappyConfig : Fields :=
  [("site", .text "Vienna"),
   ("swis", .object [("server", .text "orion"), ("username", .text "admin"),
     ("password", .text "secret"), ("port", .null), ("proxy", .text "none")]),
   ("interfaces", .object [("auto_import_status", .list [])])]

theorem gappyConfig_sectioned : Sectioned gappyConfig where
  swis := ⟨_, rfl⟩
  optional := by
    intro name member given found
    simp only [optionalSections, List.map_cons, List.map_nil, List.mem_cons, List.not_mem_nil,
      or_false] at member
    rcases member with rfl | rfl | rfl
    · cases found
    · exact ⟨_, (Option.some.inj found).symm⟩
    · cases found

/-- A valid configuration with gaps is still valid without them. -/
theorem defaults_fill_gaps_gappy : Sectioned gappyConfig ∧ validate (.object gappyConfig) = .ok () ∧
    ∃ filled : Fields, applyDefaults (.object gappyConfig) = .ok (.object filled) ∧
      FillsSections gappyConfig filled ∧
      applyDefaults (.object filled) = .ok (.object filled) ∧
      validate (.object filled) = .ok () := by
  obtain ⟨filled, filling, fills, again, valid⟩ := defaults_fill_gaps gappyConfig_sectioned
  exact ⟨gappyConfig_sectioned, rfl, filled, filling, fills, again, valid⟩

end Config

end NodeInventory
