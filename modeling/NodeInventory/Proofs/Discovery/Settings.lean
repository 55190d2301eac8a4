import NodeInventory.Discovery.Discovery
import NodeInventory.Proofs.Config.Filling
import NodeInventory.Proofs.Payload.Building

/-!
# Settings that are not given

A setting that a configuration does not give has a default in two places: in the configuration's own
tables, which fill it in, and where a payload is made from it.  A discovery takes its settings from
nothing but the fields that the payloads name (`Setting.entries_congr`, `submit_congr`), and the two
defaults of each of these are the same (`Setting.filled_agree`), so that filling a configuration
changes neither what is sent nor what is returned, `defaults_agree`.
-/

namespace NodeInventory

/-! ### What a discovery takes from its settings -/

/-- Two objects give every setting of a table the same value. -/
def Setting.Agree (table : List Setting) (fields fields' : Fields) : Prop :=
  ∀ s ∈ table,
    (Fields.find? fields s.key).getD s.default = (Fields.find? fields' s.key).getD s.default

theorem Setting.entries_congr {table : List Setting} {fields fields' : Fields}
    (same : Agree table fields fields') :
    entries table (.object fields) = entries table (.object fields') := by
  rw [entries_object, entries_object]
  refine congrArg Except.ok (List.map_congr_left fun s listed => ?_)
  rw [entry, entry, given, given, same s listed]

/-- The settings of two jobs give every payload the same values. -/
structure JobSettings.Agree (s s' : JobSettings) : Prop where
  core : Setting.entries Setting.core s.discovery = Setting.entries Setting.core s'.discovery
  interfaces : Setting.entries Setting.interfaces s.interfaces =
    Setting.entries Setting.interfaces s'.interfaces
  job : Setting.entries Setting.job s.discovery = Setting.entries Setting.job s'.discovery

theorem submit_congr {s s' : JobSettings} (same : s.Agree s') (c : Connection) (now : DateTime)
    (addresses credential name : Value) :
    submit c s now addresses credential name = submit c s' now addresses credential name := by
  unfold submit corePayload interfacesPayload jobPayload
  rw [same.core, same.interfaces, same.job]

/-- Discoverers with such settings and the same plan run every discovery alike. -/
theorem Discoverer.discover_congr {d d' : Discoverer} (settings : d.settings.Agree d'.settings)
    (plan : d.plan = d'.plan) : d.discover = d'.discover := by
  funext c now addresses credential name options
  unfold discover
  rw [submit_congr settings, plan]

/-! ### Filled settings -/

/-- Every setting of a table has the same default in some fields. -/
def Setting.Listed (table : List Setting) (defaults : Fields) : Prop :=
  ∀ s ∈ table, Fields.find? defaults s.key = some s.default

theorem Setting.filled_agree {table : List Setting} {defaults : Fields}
    (listed : Listed table defaults) (fields : Fields) :
    Agree table fields (fields.filled defaults) := by
  intro s member
  rw [Fields.find?_filled, listed s member]
  cases Fields.find? fields s.key <;> rfl

theorem Setting.core_listed : Listed core Config.discoveryDefaults := List.map_inj_left.mp rfl

theorem Setting.job_listed : Listed job Config.discoveryDefaults := List.map_inj_left.mp rfl

theorem Setting.interfaces_listed : Listed interfaces Config.interfaceDefaults :=
  List.map_inj_left.mp rfl

theorem JobSettings.filled_agree (discovery interfaces : Fields) :
    Agree (.ofValues (.object discovery) (.object interfaces))
      (.ofValues (.object (discovery.filled Config.discoveryDefaults))
        (.object (interfaces.filled Config.interfaceDefaults))) := by
  simp only [ofValues, Value.orElse_object]
  constructor
  · exact Setting.entries_congr (Setting.filled_agree Setting.core_listed discovery)
  · exact Setting.entries_congr (Setting.filled_agree Setting.interfaces_listed interfaces)
  · exact Setting.entries_congr (Setting.filled_agree Setting.job_listed discovery)

/-! ### Discoverers of a configuration -/

/-- The discoverer of two sections. -/
def Discoverer.ofSections (discovery : Fields) (interfaces : Value) : Discoverer where
  settings := .ofValues (.object discovery) interfaces
  plan :=
    { interval := (Fields.find? discovery "poll_interval_seconds").getD (.int 5)
      timeout := (Fields.find? discovery "poll_timeout_seconds").getD .null }

theorem Discoverer.ofConfig_eq_ok {fields : Fields} {d : Discoverer} :
    ofConfig (.object fields) = .ok d ↔
      ∃ discovery, Config.sectionOf fields "discovery" = .object discovery ∧
        d = ofSections discovery (Config.sectionOf fields "interfaces") := by
  have reads : ofConfig (.object fields) = (do
      let interval ← (Config.sectionOf fields "discovery").getOr "poll_interval_seconds" (.int 5)
      let timeout ← (Config.sectionOf fields "discovery").get "poll_timeout_seconds"
      pure
        { settings := .ofValues (Config.sectionOf fields "discovery")
            (Config.sectionOf fields "interfaces")
          plan := { interval := interval, timeout := timeout } }) := by
    unfold ofConfig
    rw [Value.orElse_object]
    rfl
  rw [reads]
  constructor
  · intro built
    obtain ⟨interval, read, built⟩ := Outcome.bind_eq_ok.mp built
    obtain ⟨discovery, same, rfl⟩ := Value.getOr_eq_ok.mp read
    rw [same] at built
    cases built
    exact ⟨discovery, same, rfl⟩
  · rintro ⟨discovery, same, rfl⟩
    rw [same]
    rfl

theorem Config.sessionSecurity_filled {fields fields' swis : Fields}
    (found : Fields.find? fields "swis" = some (.object swis))
    (found' : Fields.find? fields' "swis" = some (.object (Fields.filled swis swisDefaults))) :
    ∃ security, sessionSecurity (.object fields) = .ok security ∧
      sessionSecurity (.object fields') = .ok security := by
  refine ⟨_, sessionSecurity_object found, ?_⟩
  rw [sessionSecurity_object found']
  simp only [Fields.find?_filled]
  cases Fields.find? swis "ssl_verify" <;> cases Fields.find? swis "ca_cert_path" <;>
    cases Fields.find? swis "timeout_seconds" <;> rfl

/-- A discoverer whose waits can be given up and are listened to. -/
def Discoverer.watched (d : Discoverer) (cancel : Option (Nat → Bool)) (listeners : List Listener) :
    Discoverer :=
  { d with plan := { d.plan with cancel := cancel, listeners := listeners } }

/-- The discoverer of a configuration and that of the configuration with its defaults run every
discovery alike, whoever gives it up or listens to it; and the two need to know the same about their
session. -/
theorem defaults_agree {fields : Fields} (h : Config.Sectioned fields) :
    ∃ (filled : Value) (d d' : Discoverer) (security : Fields),
      Config.applyDefaults (.object fields) = .ok filled ∧
      Discoverer.ofConfig (.object fields) = .ok d ∧ Discoverer.ofConfig filled = .ok d' ∧
      (∀ cancel listeners, (d.watched cancel listeners).discover =
        (d'.watched cancel listeners).discover) ∧
      Config.sessionSecurity (.object fields) = .ok security ∧
      Config.sessionSecurity filled = .ok security := by
  obtain ⟨s, of⟩ := h.sections
  obtain ⟨security, secured, secured'⟩ := Config.sessionSecurity_filled of.swis
    (s.filled.find?_into fields "swis")
  have discovery_eq : Config.sectionOf (s.filled.into fields) "discovery" =
      .object (Fields.filled s.discovery Config.discoveryDefaults) := by
    rw [Config.sectionOf, s.filled.find?_into]
    rfl
  have interfaces_eq : Config.sectionOf (s.filled.into fields) "interfaces" =
      .object (Fields.filled s.interfaces Config.interfaceDefaults) := by
    rw [Config.sectionOf, s.filled.find?_into]
    rfl
  refine ⟨_, _, _, security, of.applyDefaults,
    Discoverer.ofConfig_eq_ok.mpr ⟨_, of.discovery, rfl⟩,
    Discoverer.ofConfig_eq_ok.mpr ⟨_, discovery_eq, rfl⟩, ?_, secured, secured'⟩
  intro cancel listeners
  rw [of.interfaces, interfaces_eq]
  refine Discoverer.discover_congr (JobSettings.filled_agree s.discovery s.interfaces) ?_
  unfold Discoverer.watched Discoverer.ofSections
  simp only [Fields.find?_filled]
  cases Fields.find? s.discovery "poll_interval_seconds" <;>
    cases Fields.find? s.discovery "poll_timeout_seconds" <;> rfl

/-- A configuration that gives some settings, one of them no value, and no section about interfaces
or logging. -/
def terseConfig : Fields :=
  [("swis", .object [("server", .text "orion.test")]),
   ("discovery", .object [("snmp_retries", .int 4), ("engine_id", .null)])]

theorem terseConfig_sectioned : Config.Sectioned terseConfig where
  swis := ⟨_, rfl⟩
  optional := by
    intro name member given found
    simp only [Config.optionalSections, List.map_cons, List.map_nil, List.mem_cons,
      List.not_mem_nil, or_false] at member
    rcases member with rfl | rfl | rfl
    · exact ⟨_, (Option.some.inj found).symm⟩
    · cases found
    · cases found

theorem defaults_agree_terse : Config.Sectioned terseConfig ∧
    ∃ (filled : Value) (d d' : Discoverer) (security : Fields),
      Config.applyDefaults (.object terseConfig) = .ok filled ∧
      Discoverer.ofConfig (.object terseConfig) = .ok d ∧ Discoverer.ofConfig filled = .ok d' ∧
      (∀ cancel listeners, (d.watched cancel listeners).discover =
        (d'.watched cancel listeners).discover) ∧
      Config.sessionSecurity (.object terseConfig) = .ok security ∧
      Config.sessionSecurity filled = .ok security :=
  ⟨terseConfig_sectioned, defaults_agree terseConfig_sectioned⟩

end NodeInventory
