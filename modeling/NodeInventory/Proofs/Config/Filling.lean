import NodeInventory.Config.File
import NodeInventory.Proofs.Payload.Building

/-!
# Filling a configuration

A section that is filled has its own fields and, where it has none, the defaults
(`Fields.find?_filled`).  A configuration that is filled has its four sections filled and everything
else as it was: `applyDefaults_eq_ok` says exactly when there is such a configuration and what it
is.  With what is checked before (`validate_eq_ok`) this gives what every accepted configuration
has, `Accepted.complete`.
-/

namespace NodeInventory

/-! ### Fields -/

namespace Value

theorem getOr_eq_ok {v default found : Value} {key : String} :
    v.getOr key default = .ok found ↔
      ∃ fields, v = .object fields ∧ (Fields.find? fields key).getD default = found := by
  cases v <;> simp [getOr]

theorem orElse_object (fields : Fields) :
    (Value.object fields).orElse (.object []) = .object fields := by
  cases fields <;> rfl

theorem field_eq_ok {v found : Value} {key : String} :
    v.field key = .ok found ↔
      ∃ fields, v = .object fields ∧ Fields.find? fields key = some found := by
  cases v with
  | object fields =>
      rw [field]
      cases there : Fields.find? fields key <;> simp [there]
  | _ => simp [field]

end Value

namespace Fields

theorem put_put (fields : Fields) (key : String) (v w : Value) :
    put (put fields key v) key w = put fields key w := by
  induction fields with
  | nil => simp [put]
  | cons entry rest ih =>
      obtain ⟨name, old⟩ := entry
      by_cases same : name = key
      · simp [put, same]
      · simp [put, same, ih]

theorem found_of_truthy {fields : Fields} {key : String}
    (given : ((find? fields key).getD .null).truthy = true) :
    ∃ v, find? fields key = some v ∧ v.truthy = true := by
  cases found : find? fields key with
  | some v => exact ⟨v, rfl, by simpa [found] using given⟩
  | none =>
      rw [found] at given
      cases given

/-- Fields with the defaults that they do not have. -/
def filled (fields : Fields) : Fields → Fields
  | [] => fields
  | (key, default) :: rest =>
      if has fields key then filled fields rest else filled (put fields key default) rest

/-- What fields have stays when they are filled; what they do not have is as the defaults say. -/
theorem find?_filled (defaults : Fields) : ∀ (fields : Fields) (key : String),
    find? (filled fields defaults) key = (find? fields key).or (find? defaults key) := by
  induction defaults with
  | nil =>
      intro fields key
      simp [filled, find?]
  | cons entry rest ih =>
      obtain ⟨name, default⟩ := entry
      intro fields key
      rw [filled, find?, has]
      cases found : find? fields name with
      | some v =>
          rw [Option.isSome_some, if_pos rfl, ih]
          by_cases same : name = key
          · subst same
            simp [found]
          · rw [if_neg same]
      | none =>
          rw [Option.isSome_none, if_neg Bool.false_ne_true, ih, find?_put]
          by_cases same : name = key
          · subst same
            simp [found]
          · rw [if_neg same, if_neg same]

end Fields

namespace Config

/-! ### One section -/

theorem fillSection_object (defaults : Fields) : ∀ fields : Fields,
    fillSection (.object fields) defaults = .ok (.object (fields.filled defaults)) := by
  induction defaults with
  | nil =>
      intro fields
      rfl
  | cons entry rest ih =>
      obtain ⟨key, default⟩ := entry
      intro fields
      show (if Fields.has fields key then fillSection (.object fields) rest
        else fillSection (.object (Fields.put fields key default)) rest) = _
      rw [Fields.filled, ih, ih]
      split <;> rfl

theorem fillPresent_eq_ok {fields : Fields} {name : String} {defaults : Fields} {config : Value} :
    fillPresent (.object fields) name defaults = .ok config ↔
      ∃ given new, Fields.find? fields name = some given ∧ fillSection given defaults = .ok new ∧
        config = .object (Fields.put fields name new) := by
  unfold fillPresent Value.field
  dsimp only
  cases Fields.find? fields name with
  | none => exact iff_of_false nofun (by simp)
  | some given =>
      show (fillSection given defaults >>= fun new => Value.putField _ name new) = _ ↔ _
      rw [Outcome.bind_eq_ok]
      simp [Value.putField, eq_comm]

/-- The section of a configuration under a name, an empty one when there is none. -/
def sectionOf (fields : Fields) (name : String) : Value :=
  (Fields.find? fields name).getD (.object [])

theorem fillOptional_eq_ok {fields : Fields} {name : String} {defaults : Fields} {config : Value} :
    fillOptional (.object fields) name defaults = .ok config ↔
      ∃ new, fillSection (sectionOf fields name) defaults = .ok new ∧
        config = .object (Fields.put fields name new) := by
  have opened : fillOptional (.object fields) name defaults =
      if Fields.has fields name then fillPresent (.object fields) name defaults
      else fillPresent (.object (Fields.put fields name (.object []))) name defaults := rfl
  rw [opened, Fields.has, sectionOf]
  cases found : Fields.find? fields name with
  | some given =>
      rw [Option.isSome_some, if_pos rfl, fillPresent_eq_ok]
      simp [found]
  | none =>
      rw [Option.isSome_none, if_neg Bool.false_ne_true, fillPresent_eq_ok]
      simp [Fields.find?_put, Fields.put_put]

/-! ### All sections -/

/-- The sections of a configuration once they are filled. -/
structure FilledSections where
  swis : Value
  discovery : Value
  interfaces : Value
  logging : Value

/-- A configuration with its sections filled. -/
def FilledSections.into (s : FilledSections) (fields : Fields) : Fields :=
  (((fields.put "swis" s.swis).put "discovery" s.discovery).put "interfaces" s.interfaces).put
    "logging" s.logging

/-- Each section comes from filling the one that is there, or an empty one. -/
structure FilledSections.Fill (s : FilledSections) (fields : Fields) : Prop where
  swis : ∃ given, Fields.find? fields "swis" = some given ∧
    fillSection given swisDefaults = .ok s.swis
  discovery : fillSection (sectionOf fields "discovery") discoveryDefaults = .ok s.discovery
  interfaces : fillSection (sectionOf fields "interfaces") interfaceDefaults = .ok s.interfaces
  logging : fillSection (sectionOf fields "logging") loggingDefaults = .ok s.logging

theorem sectionOf_put (fields : Fields) {name other : String} (v : Value)
    (distinct : name ≠ other) :
    sectionOf (Fields.put fields name v) other = sectionOf fields other := by
  rw [sectionOf, Fields.find?_put, if_neg distinct, sectionOf]

/-- A configuration can be filled exactly if each of its sections can be. -/
theorem applyDefaults_eq_ok {fields : Fields} {config : Value} :
    applyDefaults (.object fields) = .ok config ↔
      ∃ s : FilledSections, s.Fill fields ∧ config = .object (s.into fields) := by
  have steps : applyDefaults (.object fields) =
      fillPresent (.object fields) "swis" swisDefaults >>= fun c =>
        fillOptional c "discovery" discoveryDefaults >>= fun c =>
          fillOptional c "interfaces" interfaceDefaults >>= fun c =>
            fillOptional c "logging" loggingDefaults >>= pure := rfl
  rw [steps]
  constructor
  · intro filled
    obtain ⟨_, run, filled⟩ := Outcome.bind_eq_ok.mp filled
    obtain ⟨given, swis, found, first, rfl⟩ := fillPresent_eq_ok.mp run
    obtain ⟨_, run, filled⟩ := Outcome.bind_eq_ok.mp filled
    obtain ⟨discovery, second, rfl⟩ := fillOptional_eq_ok.mp run
    obtain ⟨_, run, filled⟩ := Outcome.bind_eq_ok.mp filled
    obtain ⟨interfaces, third, rfl⟩ := fillOptional_eq_ok.mp run
    obtain ⟨_, run, filled⟩ := Outcome.bind_eq_ok.mp filled
    obtain ⟨logging, fourth, rfl⟩ := fillOptional_eq_ok.mp run
    cases filled
    refine ⟨⟨swis, discovery, interfaces, logging⟩, ⟨⟨given, found, first⟩, ?_, ?_, ?_⟩, rfl⟩
    · simpa [sectionOf_put] using second
    · simpa [sectionOf_put] using third
    · simpa [sectionOf_put] using fourth
  · rintro ⟨s, ⟨⟨given, found, first⟩, second, third, fourth⟩, rfl⟩
    refine Outcome.bind_eq_ok.mpr ⟨_, fillPresent_eq_ok.mpr ⟨given, _, found, first, rfl⟩, ?_⟩
    refine Outcome.bind_eq_ok.mpr ⟨_, fillOptional_eq_ok.mpr ⟨s.discovery, ?_, rfl⟩, ?_⟩
    · simpa [sectionOf_put] using second
    refine Outcome.bind_eq_ok.mpr ⟨_, fillOptional_eq_ok.mpr ⟨s.interfaces, ?_, rfl⟩, ?_⟩
    · simpa [sectionOf_put] using third
    refine Outcome.bind_eq_ok.mpr ⟨_, fillOptional_eq_ok.mpr ⟨s.logging, ?_, rfl⟩, rfl⟩
    simpa [sectionOf_put] using fourth

/-- What is used of a configuration can be read: there is a section about the server, and the other
sections are objects if there are any. -/
structure Sectioned (fields : Fields) : Prop where
  swis : ∃ swis, Fields.find? fields "swis" = some (.object swis)
  optional : ∀ name ∈ optionalSections.map Prod.fst, ∀ given,
    Fields.find? fields name = some given → ∃ section_, given = .object section_

/-- The sections of a configuration, each of them an object. -/
structure Sections where
  swis : Fields
  discovery : Fields
  interfaces : Fields
  logging : Fields

/-- The sections are those of a configuration, an empty one standing for one that is missing. -/
structure Sections.Of (s : Sections) (fields : Fields) : Prop where
  swis : Fields.find? fields "swis" = some (.object s.swis)
  discovery : sectionOf fields "discovery" = .object s.discovery
  interfaces : sectionOf fields "interfaces" = .object s.interfaces
  logging : sectionOf fields "logging" = .object s.logging

theorem Sectioned.sections {fields : Fields} (h : Sectioned fields) :
    ∃ s : Sections, s.Of fields := by
  have object (name : String) (member : name ∈ optionalSections.map Prod.fst) :
      ∃ section_, sectionOf fields name = .object section_ := by
    unfold sectionOf
    cases found : Fields.find? fields name with
    | none => exact ⟨[], rfl⟩
    | some given => exact h.optional name member given found
  obtain ⟨swis, found⟩ := h.swis
  obtain ⟨discovery, first⟩ := object "discovery" (by decide)
  obtain ⟨interfaces, second⟩ := object "interfaces" (by decide)
  obtain ⟨logging, third⟩ := object "logging" (by decide)
  exact ⟨⟨swis, discovery, interfaces, logging⟩, found, first, second, third⟩

/-- Sections with their defaults. -/
def Sections.filled (s : Sections) : FilledSections where
  swis := .object (Fields.filled s.swis swisDefaults)
  discovery := .object (Fields.filled s.discovery discoveryDefaults)
  interfaces := .object (Fields.filled s.interfaces interfaceDefaults)
  logging := .object (Fields.filled s.logging loggingDefaults)

theorem Sections.Of.applyDefaults {s : Sections} {fields : Fields} (h : s.Of fields) :
    applyDefaults (.object fields) = .ok (.object (s.filled.into fields)) := by
  refine applyDefaults_eq_ok.mpr ⟨s.filled, ⟨⟨_, h.swis, ?_⟩, ?_, ?_, ?_⟩, rfl⟩
  · exact fillSection_object _ _
  · rw [h.discovery]
    exact fillSection_object _ _
  · rw [h.interfaces]
    exact fillSection_object _ _
  · rw [h.logging]
    exact fillSection_object _ _

/-- A configuration with its sections filled has these sections, and everything else as it was. -/
theorem FilledSections.find?_into (s : FilledSections) (fields : Fields) (name : String) :
    Fields.find? (s.into fields) name =
      if "logging" = name then some s.logging
      else if "interfaces" = name then some s.interfaces
      else if "discovery" = name then some s.discovery
      else if "swis" = name then some s.swis
      else Fields.find? fields name := by
  simp only [into, Fields.find?_put]

theorem sessionSecurity_object {fields swis : Fields}
    (found : Fields.find? fields "swis" = some (.object swis)) :
    sessionSecurity (.object fields) = .ok
      [("ssl_verify", (Fields.find? swis "ssl_verify").getD (.bool false)),
        ("ca_cert_path", (Fields.find? swis "ca_cert_path").getD .null),
        ("timeout_seconds", (Fields.find? swis "timeout_seconds").getD (.int 30))] := by
  unfold sessionSecurity
  rw [Value.getOr, found]
  rfl

/-! ### Accepted configurations -/

theorem checkRequired_eq_ok {swis : Fields} : ∀ {names : List String},
    checkRequired (.object swis) names = .ok () ↔
      ∀ name ∈ names, ((Fields.find? swis name).getD .null).truthy = true
  | [] => by simp [checkRequired]
  | name :: rest => by
      have step : checkRequired (.object swis) (name :: rest) =
          if ((Fields.find? swis name).getD .null).truthy then checkRequired (.object swis) rest
          else .error (.missingField "swis" name) := rfl
      rw [step, List.forall_mem_cons]
      split
      case isTrue present => simp [present, checkRequired_eq_ok]
      case isFalse absent => simp [absent]

/-- The parts of a configuration that are checked. -/
structure Checked (config : Value) (fields swis discovery : Fields) : Prop where
  fields_eq : config = .object fields
  swis_found : Fields.find? fields "swis" = some (.object swis)
  required : ∀ name ∈ requiredFields, ((Fields.find? swis name).getD .null).truthy = true
  discovery_eq : sectionOf fields "discovery" = .object discovery
  interval : checkInterval ((Fields.find? discovery "poll_interval_seconds").getD .null) = .ok ()
  certificate : checkCertificate (.object swis) = .ok ()

theorem validate_eq_ok {config : Value} :
    validate config = .ok () ↔ ∃ fields swis discovery, Checked config fields swis discovery := by
  constructor
  · intro valid
    obtain ⟨_ | _, held, valid⟩ := Outcome.bind_eq_ok.mp valid
    · cases valid
    obtain ⟨swis, read, valid⟩ := Outcome.bind_eq_ok.mp valid
    obtain ⟨fields, rfl, found⟩ := Value.field_eq_ok.mp read
    obtain ⟨_, required, valid⟩ := Outcome.bind_eq_ok.mp valid
    obtain ⟨discovery, looked, valid⟩ := Outcome.bind_eq_ok.mp valid
    obtain ⟨_, ⟨⟩, sectioned⟩ := Value.getOr_eq_ok.mp looked
    obtain ⟨interval, looked, valid⟩ := Outcome.bind_eq_ok.mp valid
    obtain ⟨discovery, rfl, rfl⟩ := Value.getOr_eq_ok.mp looked
    obtain ⟨_, checked, certificate⟩ := Outcome.bind_eq_ok.mp valid
    obtain ⟨_, checked', -⟩ := Outcome.bind_eq_ok.mp certificate
    obtain ⟨swis, rfl, -⟩ := Value.getOr_eq_ok.mp checked'
    exact ⟨fields, swis, discovery, rfl, found, checkRequired_eq_ok.mp required, sectioned, checked,
      certificate⟩
  · rintro ⟨fields, swis, discovery, rfl, found, required, sectioned, checked, certificate⟩
    have held : Fields.has fields "swis" = true := by simp [Fields.has, found]
    refine Outcome.bind_eq_ok.mpr ⟨true, congrArg Except.ok held, ?_⟩
    refine Outcome.bind_eq_ok.mpr ⟨_, Value.field_eq_ok.mpr ⟨fields, rfl, found⟩, ?_⟩
    refine Outcome.bind_eq_ok.mpr ⟨(), checkRequired_eq_ok.mpr required, ?_⟩
    refine Outcome.bind_eq_ok.mpr ⟨_, Value.getOr_eq_ok.mpr ⟨fields, rfl, sectioned⟩, ?_⟩
    refine Outcome.bind_eq_ok.mpr ⟨_, Value.getOr_eq_ok.mpr ⟨discovery, rfl, rfl⟩, ?_⟩
    exact Outcome.bind_eq_ok.mpr ⟨(), checked, certificate⟩

theorem accept_object (fields : Fields) :
    accept (.object fields) =
      validate (.object fields) >>= fun _ => applyDefaults (.object fields) := by
  unfold accept
  rw [Value.orElse_object]

/-- A configuration that is accepted is one that is valid, with its sections filled. -/
theorem accept_eq_ok {content config : Value} :
    accept content = .ok config ↔ ∃ fields swis discovery, Checked content fields swis discovery ∧
      ∃ s : FilledSections, s.Fill fields ∧ config = .object (s.into fields) := by
  constructor
  · intro accepted
    obtain ⟨_, valid, filled⟩ := Outcome.bind_eq_ok.mp accepted
    obtain ⟨fields, swis, discovery, checked⟩ := validate_eq_ok.mp valid
    rw [checked.fields_eq] at filled
    have content_eq : content = .object fields := by
      have read := checked.fields_eq
      unfold Value.orElse at read
      split at read
      case isTrue => exact read
      case isFalse =>
        cases read
        cases checked.swis_found
    exact ⟨fields, swis, discovery, { checked with fields_eq := content_eq },
      applyDefaults_eq_ok.mp filled⟩
  · rintro ⟨fields, swis, discovery, checked, filled⟩
    obtain rfl := checked.fields_eq
    rw [accept_object]
    exact Outcome.bind_eq_ok.mpr ⟨(), validate_eq_ok.mpr ⟨_, _, _, checked⟩,
      applyDefaults_eq_ok.mpr filled⟩

/-- What a configuration has once it is accepted: a server with an account and a port, and a section
about discovery jobs. -/
structure Complete (config : Value) (fields swis discovery : Fields) : Prop where
  fields_eq : config = .object fields
  swis_found : Fields.find? fields "swis" = some (.object swis)
  required : ∀ name ∈ requiredFields, ((Fields.find? swis name).getD .null).truthy = true
  port_found : (Fields.find? swis "port").isSome = true
  discovery_found : Fields.find? fields "discovery" = some (.object discovery)

theorem truthy_filled {fields : Fields} {key : String} (defaults : Fields)
    (given : ((Fields.find? fields key).getD .null).truthy = true) :
    ((Fields.find? (fields.filled defaults) key).getD .null).truthy = true := by
  obtain ⟨v, found, true_⟩ := Fields.found_of_truthy given
  rw [Fields.find?_filled, found]
  exact true_

/-- A configuration that was checked and given its defaults. -/
def Accepted (config : Value) : Prop := ∃ content, accept content = .ok config

theorem Accepted.complete {config : Value} (accepted : Accepted config) :
    ∃ fields swis discovery, Complete config fields swis discovery := by
  obtain ⟨content, accepted⟩ := accepted
  obtain ⟨fields, swis, discovery, checked, s, ⟨⟨_, found, first⟩, second, -, -⟩, rfl⟩ :=
    accept_eq_ok.mp accepted
  obtain rfl := Option.some.inj (found.symm.trans checked.swis_found)
  rw [checked.discovery_eq, fillSection_object] at second
  rw [fillSection_object] at first
  refine ⟨_, swis.filled swisDefaults, discovery.filled discoveryDefaults, rfl, ?_, ?_, ?_, ?_⟩
  · rw [s.find?_into, ← Except.ok.inj first]
    rfl
  · intro name required
    exact truthy_filled _ (checked.required name required)
  · rw [Fields.find?_filled]
    cases Fields.find? swis "port" <;> rfl
  · rw [s.find?_into, ← Except.ok.inj second]
    rfl

/-- A configuration that is read from a file is an accepted one. -/
theorem load_accepted {path : String} {place : Place} {config : Value}
    (loaded : load path place = .ok config) : Accepted config := by
  cases place with
  | nothing => cases loaded
  | directory => cases loaded
  | file text =>
      obtain ⟨content, -, accepted⟩ := Outcome.bind_eq_ok.mp loaded
      exact ⟨content, accepted⟩

/-- The lines of a file that name a server and an account. -/
def accountLines : String := "swis:\n  server: orion\n  username: admin\n  password: secret\n"

end Config

end NodeInventory
