import NodeInventory.Proofs.Discovery.Settings
import NodeInventory.Service.Calls
import Mathlib.Data.List.Induction

/-!
# Starting a service

Starting a service ends in one of six ways (`Service.Starts`).  In two of them it fails when its
session is already open: the server has no name, or what is said about discovery jobs is no object.
So a service whose configuration is such keeps an open session and lacks a part,
`half_started_service`, while every other one is either whole or has nothing, `starts_whole_iff`.
-/

namespace NodeInventory

/-! ### What a configuration plans -/

namespace Service

/-- The session and the connection that the section about the server asks for. -/
structure Plans (config : Value) (fields swis : Fields) (options : SessionOptions)
    (c : Connection) : Prop where
  fields_eq : config = .object fields
  swis_found : Fields.find? fields "swis" = some (.object swis)
  server : Fields.find? swis "server" = some c.server
  port : Fields.find? swis "port" = some c.port
  username : Fields.find? swis "username" = some options.username
  password : Fields.find? swis "password" = some options.password
  timeout : options.timeout = (Fields.find? swis "timeout_seconds").getD (.int 30)
  verify : options.verify = (Fields.find? swis "ssl_verify").getD (.bool false)
  certificate : options.certificate = (Fields.find? swis "ca_cert_path").getD .null
  base : c.basePath = defaultBasePath

theorem planOf_eq_ok {config : Value} {options : SessionOptions} {c : Connection} :
    planOf config = .ok (options, c) ↔ ∃ fields swis, Plans config fields swis options c := by
  constructor
  · intro planned
    obtain ⟨swis, read, planned⟩ := Outcome.bind_eq_ok.mp planned
    obtain ⟨fields, rfl, found⟩ := Value.field_eq_ok.mp read
    obtain ⟨security, secured, planned⟩ := Outcome.bind_eq_ok.mp planned
    obtain ⟨server, read, planned⟩ := Outcome.bind_eq_ok.mp planned
    obtain ⟨swis, rfl, server_found⟩ := Value.field_eq_ok.mp read
    obtain ⟨port, read, planned⟩ := Outcome.bind_eq_ok.mp planned
    obtain ⟨_, ⟨⟩, port_found⟩ := Value.field_eq_ok.mp read
    obtain ⟨username, read, planned⟩ := Outcome.bind_eq_ok.mp planned
    obtain ⟨_, ⟨⟩, username_found⟩ := Value.field_eq_ok.mp read
    obtain ⟨password, read, planned⟩ := Outcome.bind_eq_ok.mp planned
    obtain ⟨_, ⟨⟩, password_found⟩ := Value.field_eq_ok.mp read
    rw [Config.sessionSecurity_object found] at secured
    cases secured
    cases planned
    exact ⟨fields, swis, rfl, found, server_found, port_found, username_found, password_found,
      rfl, rfl, rfl, rfl⟩
  · rintro ⟨fields, swis, rfl, found, server, port, username, password, timeout, verify,
      certificate, base⟩
    have read {key : String} {v : Value} (there : Fields.find? swis key = some v) :
        (Value.object swis).field key = .ok v := Value.field_eq_ok.mpr ⟨swis, rfl, there⟩
    refine Outcome.bind_eq_ok.mpr ⟨_, Value.field_eq_ok.mpr ⟨fields, rfl, found⟩, ?_⟩
    refine Outcome.bind_eq_ok.mpr ⟨_, Config.sessionSecurity_object found, ?_⟩
    refine Outcome.bind_eq_ok.mpr ⟨_, read server, ?_⟩
    refine Outcome.bind_eq_ok.mpr ⟨_, read port, ?_⟩
    refine Outcome.bind_eq_ok.mpr ⟨_, read username, ?_⟩
    refine Outcome.bind_eq_ok.mpr ⟨_, read password, ?_⟩
    obtain ⟨_, _, _, _, _⟩ := options
    obtain ⟨_, _, _⟩ := c
    subst timeout verify certificate base
    rfl

end Service

/-! ### The ways a start ends -/

namespace Connection

theorem ready_named {c : Connection} (named : c.server.truthy = true) :
    ready (some c) true = .ok c := by
  simp [ready, named]

theorem ready_unnamed {c : Connection} (unnamed : c.server.truthy = false) :
    ready (some c) true = .error .noServer := by
  simp [ready, unnamed]

end Connection

namespace Service

/-- How starting a service ends. -/
inductive Starts (s : Service) (opens : SessionOptions → Outcome Unit) : Started → Prop
  /-- The session is open already. -/
  | already : s.session = some .opened → Starts s opens { outcome := .ok (), service := s }
  /-- The configuration does not say what to open. -/
  | unplanned {fault : Fault} : s.session ≠ some .opened → planOf s.config = .error fault →
      Starts s opens { outcome := .error fault, service := s }
  /-- No session can be opened. -/
  | unopened {options : SessionOptions} {c : Connection} {fault : Fault} :
      s.session ≠ some .opened → planOf s.config = .ok (options, c) →
      opens options = .error fault → Starts s opens { outcome := .error fault, service := s }
  /-- A session is opened with a server that has no name. -/
  | nameless {options : SessionOptions} {c : Connection} :
      s.session ≠ some .opened → planOf s.config = .ok (options, c) → opens options = .ok () →
      c.server.truthy = false →
      Starts s opens
        { outcome := .error .noServer
          service := { s with session := some .opened }
          opened := some options }
  /-- A session is opened, but nothing can run discoveries. -/
  | undirected {options : SessionOptions} {c : Connection} {fault : Fault} :
      s.session ≠ some .opened → planOf s.config = .ok (options, c) → opens options = .ok () →
      c.server.truthy = true → Discoverer.ofConfig s.config = .error fault →
      Starts s opens
        { outcome := .error fault
          service := { s with session := some .opened, client := some c }
          opened := some options }
  /-- A session is opened, and all parts are built. -/
  | built {options : SessionOptions} {c : Connection} {d : Discoverer} :
      s.session ≠ some .opened → planOf s.config = .ok (options, c) → opens options = .ok () →
      c.server.truthy = true → Discoverer.ofConfig s.config = .ok d →
      Starts s opens
        { outcome := .ok ()
          service :=
            { s with session := some .opened, client := some c, discoverer := some d }
          opened := some options }

theorem start_cases (s : Service) (opens : SessionOptions → Outcome Unit) :
    s.Starts opens (s.start opens) := by
  unfold start
  split
  case isTrue already => exact .already already
  case isFalse closed =>
  cases planned : planOf s.config with
  | error fault => exact .unplanned closed planned
  | ok plan =>
      obtain ⟨options, c⟩ := plan
      dsimp only
      cases opened : opens options with
      | error fault => exact .unopened closed planned opened
      | ok =>
          dsimp only
          cases named : c.server.truthy with
          | false =>
              rw [Connection.ready_unnamed named]
              exact .nameless closed planned opened named
          | true =>
              rw [Connection.ready_named named]
              dsimp only
              cases directed : Discoverer.ofConfig s.config with
              | error fault => exact .undirected closed planned opened named directed
              | ok d => exact .built closed planned opened named directed

/-! ### Services that are whole -/

/-- A service has an open session and all its other parts, or it has none of them. -/
inductive Whole (s : Service) : Prop
  | stopped : s.session = none → s.client = none → s.discoverer = none → Whole s
  | started {c : Connection} {d : Discoverer} :
      s.session = some .opened → s.client = some c → s.discoverer = some d → Whole s

/-- When a session can be opened, so can all other parts be built: the server has a name, and what
is said about discovery jobs is an object. -/
def Buildable (config : Value) : Prop :=
  ∀ fields swis options c, Plans config fields swis options c → c.server.truthy = true ∧
    ∃ discovery, Config.sectionOf fields "discovery" = .object discovery

/-- Starting a service changes nothing when it fails; when it does not, the service can be asked for
rows and told to add nodes. -/
structure StartsWhole (s : Service) (opens : SessionOptions → Outcome Unit) : Prop where
  failed : ∀ fault, (s.start opens).outcome = .error fault → (s.start opens).service = s
  ended : (s.start opens).outcome = .ok () →
    (s.start opens).service.client.isSome = true ∧
      (s.start opens).service.discoverer.isSome = true

section start

variable {s : Service} {opens : SessionOptions → Outcome Unit}

/-- A service that is whole starts as it should, and is whole afterwards. -/
theorem Whole.start (whole : s.Whole) (buildable : Buildable s.config) :
    s.StartsWhole opens ∧ (s.start opens).service.Whole ∧
      (s.start opens).service.config = s.config := by
  have cases_ := s.start_cases opens
  generalize result : s.start opens = r at cases_
  have keeps {fault : Fault} (same : r.service = s) (failed : r.outcome = .error fault) :
      s.StartsWhole opens ∧ r.service.Whole ∧ r.service.config = s.config := by
    refine ⟨⟨fun _ _ => by rw [result, same], ?_⟩, same ▸ whole, by rw [same]⟩
    intro ended
    rw [result, failed] at ended
    cases ended
  cases cases_ with
  | already opened =>
      cases whole with
      | stopped none_ =>
          rw [none_] at opened
          cases opened
      | started session client discoverer =>
          refine ⟨⟨fun _ failed => ?_, fun _ => ?_⟩, .started session client discoverer, rfl⟩
          · rw [result] at failed
            cases failed
          · rw [result]
            exact ⟨by rw [client]; rfl, by rw [discoverer]; rfl⟩
  | unplanned => exact keeps rfl rfl
  | unopened => exact keeps rfl rfl
  | nameless _ planned _ unnamed =>
      obtain ⟨fields, swis, plans⟩ := planOf_eq_ok.mp planned
      have named := (buildable fields swis _ _ plans).1
      rw [unnamed] at named
      cases named
  | undirected _ planned _ _ undirected =>
      obtain ⟨fields, swis, plans⟩ := planOf_eq_ok.mp planned
      obtain ⟨discovery, same⟩ := (buildable fields swis _ _ plans).2
      rw [plans.fields_eq, Discoverer.ofConfig_eq_ok.mpr ⟨discovery, same, rfl⟩] at undirected
      cases undirected
  | built =>
      refine ⟨⟨fun _ failed => ?_, fun _ => ?_⟩, .started rfl rfl rfl, rfl⟩
      · rw [result] at failed
        cases failed
      · rw [result]
        exact ⟨rfl, rfl⟩

end start

end Service

/-! ### In the course of calls -/

theorem Life.next_service (remote : Remote) (l : Life) (call : Call) :
    (l.next remote call).service = match call with
      | .start opens => (l.service.start opens).service
      | .stop => l.service.stop
      | _ => l.service := by
  cases call with
  | start opens =>
      unfold next
      dsimp only
      split <;> rfl
  | _ => rfl

/-- What is true of a new service, and stays true with every call, is true after any calls. -/
theorem Life.after_induction {P : Life → Prop} (remote : Remote) {config : Value}
    (new : P { service := { config := config } })
    (step : ∀ l call, P l → P (l.next remote call)) (calls : List Call) :
    P (after remote config calls) :=
  List.foldlRecOn calls (next remote) new fun l kept call _ => step l call kept

/-- In the course of any calls, every start of a service leaves it as it was or whole, exactly if
its configuration is such that all parts can be built when a session can be opened. -/
theorem starts_whole_iff (config : Value) (remote : Remote) :
    (∀ (calls : List Call) (opens : SessionOptions → Outcome Unit),
      (Life.after remote config calls).service.StartsWhole opens) ↔ Service.Buildable config := by
  constructor
  · intro whole fields swis options c plans
    have planned := Service.planOf_eq_ok.mpr ⟨fields, swis, plans⟩
    obtain ⟨failed, -⟩ : ({ config := config } : Service).StartsWhole fun _ => .ok () := whole [] _
    have cases_ := ({ config := config } : Service).start_cases fun _ => .ok ()
    generalize ({ config := config } : Service).start (fun _ => .ok ()) = r at failed cases_
    -- a session can be opened, so that a new service that fails to start does not stay without one
    cases cases_ with
    | already opened => cases opened
    | unplanned _ unplanned => cases planned.symm.trans unplanned
    | unopened _ _ unopened => cases unopened
    | nameless => cases congrArg Service.session (failed _ rfl)
    | undirected => cases congrArg Service.session (failed _ rfl)
    | built _ planned' _ named directed =>
        cases planned.symm.trans planned'
        dsimp only at directed
        rw [plans.fields_eq] at directed
        obtain ⟨discovery, same, -⟩ := Discoverer.ofConfig_eq_ok.mp directed
        exact ⟨named, discovery, same⟩
  · intro buildable calls opens
    have kept := Life.after_induction
      (P := fun l => l.service.Whole ∧ l.service.config = config) remote
      ⟨.stopped rfl rfl rfl, rfl⟩ (fun l call ⟨whole, same⟩ => by
        rw [Life.next_service]
        cases call with
        | start opens =>
            obtain ⟨-, whole', same'⟩ := whole.start (same ▸ buildable)
            exact ⟨whole', same'.trans same⟩
        | stop => exact ⟨.stopped rfl rfl rfl, same⟩
        | _ => exact ⟨whole, same⟩) calls
    rw [← kept.2] at buildable
    exact (kept.1.start buildable).1

/-- A configuration that names no server. -/
def namelessConfig : Value :=
  .object
    [("swis", .object
      [("server", .text ""), ("port", .int 17778), ("username", .text "admin"),
       ("password", .text "secret")])]

/-- Without the name of a server a start fails and leaves the session open, so that the next start
does not fail and builds nothing. -/
theorem half_started_service :
    let first := ({ config := namelessConfig } : Service).start fun _ => .ok ()
    let second := first.service.start fun _ => .ok ()
    first.outcome = .error .noServer ∧ first.service.session = some .opened ∧
      second.outcome = .ok () ∧ second.service.client.isSome = false ∧
      second.service.discoverer.isSome = false :=
  ⟨rfl, rfl, rfl, rfl, rfl⟩

end NodeInventory
