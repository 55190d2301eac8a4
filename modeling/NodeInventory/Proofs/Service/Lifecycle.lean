import NodeInventory.Proofs.Remote.Script
import NodeInventory.Proofs.Service.Starting

/-!
# The life of a service

A configuration that is accepted supplies everything a service is built from (`Accepted.supplies`),
so that its start fails only when no session can be opened.  Hence each call finds the service in
one of two stages (`Life.Stage`): it is stopped, and all its sessions are closed, or it is started,
and the last of its sessions is the only open one.  What can be relied on in a stage is
`Life.Orderly`.
-/

namespace NodeInventory

/-! ### What a service is built from -/

namespace Service

/-- What a service is built from, as a configuration has it. -/
structure Supplies (config : Value) (options : SessionOptions) (c : Connection)
    (d : Discoverer) : Prop where
  planned : planOf config = .ok (options, c)
  named : c.server.truthy = true
  directed : Discoverer.ofConfig config = .ok d

end Service

theorem Config.Accepted.supplies {config : Value} (accepted : Accepted config) :
    ∃ options c d, Service.Supplies config options c d := by
  obtain ⟨fields, swis, discovery, complete⟩ := accepted.complete
  have required (name : String) (member : name ∈ requiredFields) :=
    Fields.found_of_truthy (complete.required name member)
  obtain ⟨server, server_found, named⟩ := required "server" (by decide)
  obtain ⟨username, username_found, -⟩ := required "username" (by decide)
  obtain ⟨password, password_found, -⟩ := required "password" (by decide)
  obtain ⟨port, port_found⟩ := Option.isSome_iff_exists.mp complete.port_found
  have directed : Config.sectionOf fields "discovery" = .object discovery := by
    rw [sectionOf, complete.discovery_found, Option.getD_some]
  have plans : Service.Plans config fields swis
      { username := username
        password := password
        timeout := (Fields.find? swis "timeout_seconds").getD (.int 30)
        verify := (Fields.find? swis "ssl_verify").getD (.bool false)
        certificate := (Fields.find? swis "ca_cert_path").getD .null }
      { server := server, port := port } :=
    ⟨complete.fields_eq, complete.swis_found, server_found, port_found, username_found,
      password_found, rfl, rfl, rfl, rfl⟩
  refine ⟨_, _, .ofSections discovery (sectionOf fields "interfaces"),
    Service.planOf_eq_ok.mpr ⟨fields, swis, plans⟩, named, ?_⟩
  rw [complete.fields_eq]
  exact Discoverer.ofConfig_eq_ok.mpr ⟨discovery, directed, rfl⟩

namespace Service

variable {config : Value} {options : SessionOptions} {c : Connection} {d : Discoverer}

/-- A service whose configuration supplies everything is started whole when a session can be
opened, and otherwise not at all. -/
theorem Supplies.start (h : Supplies config options c d) (opens : SessionOptions → Outcome Unit) :
    ({ config := config } : Service).start opens = match opens options with
      | .error fault => { outcome := .error fault, service := { config := config } }
      | .ok () =>
          { outcome := .ok ()
            service := ⟨config, some .opened, some c, some d⟩
            opened := some options } := by
  have cases_ := ({ config := config } : Service).start_cases opens
  generalize ({ config := config } : Service).start opens = r at cases_
  cases cases_ with
  | already opened => cases opened
  | unplanned _ unplanned => cases h.planned.symm.trans unplanned
  | unopened _ planned unopened =>
      cases h.planned.symm.trans planned
      rw [unopened]
  | nameless _ planned _ unnamed =>
      cases h.planned.symm.trans planned
      cases h.named.symm.trans unnamed
  | undirected _ _ _ _ undirected => cases h.directed.symm.trans undirected
  | built _ planned opened _ directed =>
      cases h.planned.symm.trans planned
      cases h.directed.symm.trans directed
      rw [opened]

/-! ### Operations -/

variable {s : Service} {remote : Remote}

theorem rows_stopped (stopped : s.client = none) (subject : Subject) (f : Filter) (now : DateTime)
    (trace : Trace) : s.rows subject f now remote trace = (.error .notStarted, trace) := by
  unfold rows startedClient
  rw [stopped]
  rfl

theorem addNodes_stopped (stopped : s.client = none) (now : DateTime)
    (addresses credential name : Value) (options : ReconcileOptions) (trace : Trace) :
    s.addNodes now addresses credential name options remote trace =
      (.error .notStarted, trace) := by
  unfold addNodes startedClient
  rw [stopped]
  rfl

theorem rows_started (started : s.client = some c) (subject : Subject) (f : Filter)
    (now : DateTime) (trace : Trace) :
    s.rows subject f now remote trace = match f.statement subject now with
      | .error fault => (.error fault, trace)
      | .ok text => (c.queried remote trace.sent text [],
          trace.ask remote (c.queryRequest text [])) := by
  have steps : s.rows subject f now remote trace =
      (Exchange.ofOutcome (f.statement subject now) >>= fun text => c.query text [])
        remote trace := by
    unfold rows startedClient
    rw [started]
    rfl
  rw [steps, Exchange.bind_run]
  cases f.statement subject now with
  | error fault => rfl
  | ok text => exact c.query_run text rfl trace

end Service

/-! ### Stages -/

namespace Life

variable {remote : Remote} {config : Value} {options : SessionOptions} {c : Connection}
  {d : Discoverer}

/-- A service that is stopped has closed all its sessions; one that is started has closed all but
the last one, which it holds. -/
inductive Stage (config : Value) (c : Connection) (d : Discoverer) : Life → Prop
  | stopped (n : Nat) (trace : Trace) : Stage config c d
      { service := { config := config }
        sessions := List.replicate n .closed
        trace := trace }
  | started (n : Nat) (trace : Trace) : Stage config c d
      { service := ⟨config, some .opened, some c, some d⟩
        sessions := List.replicate n .closed ++ [.opened]
        held := some n
        trace := trace }

theorem next_start {l : Life} {opens : SessionOptions → Outcome Unit} :
    l.next remote (.start opens) =
      if (l.service.start opens).opened.isSome then
        { l with
          service := (l.service.start opens).service
          sessions := l.sessions ++ [.opened]
          held := some l.sessions.length }
      else { l with service := (l.service.start opens).service } := rfl

theorem closing_last (n : Nat) :
    (List.replicate n SessionState.closed ++ [SessionState.opened]).set n .closed =
      List.replicate (n + 1) .closed := by
  rw [List.replicate_succ']
  simp

/-- Every call leads from a stage to a stage. -/
theorem Stage.next (supplies : Service.Supplies config options c d) {l : Life}
    (stage : Stage config c d l) (call : Call) : Stage config c d (l.next remote call) := by
  cases call with
  | start opens =>
      rw [next_start]
      cases stage with
      | stopped n trace =>
          dsimp only
          rw [supplies.start]
          cases opens options with
          | error fault => exact .stopped n trace
          | ok =>
              have started : Stage config c d _ := .started n trace
              simpa using started
      | started n trace => exact .started n trace
  | stop =>
      cases stage with
      | stopped n trace => exact .stopped n trace
      | started n trace =>
          have stopped : Stage config c d _ := .stopped (n + 1) trace
          rw [← closing_last] at stopped
          exact stopped
  | _ =>
      cases stage with
      | stopped n _ => exact .stopped n _
      | started n _ => exact .started n _

/-- What can be relied on between two calls. -/
structure Orderly (remote : Remote) (config : Value) (l : Life) : Prop where
  whole : l.service.Whole
  /-- No two sessions are open, and none is while the service is stopped. -/
  one_open : l.sessions.count .opened = if l.service.session = some .opened then 1 else 0
  /-- Stopping the service takes away all its parts and closes every session that it opened. -/
  stop_closes : (l.next remote .stop).service = { config := config } ∧
    (l.next remote .stop).sessions = List.replicate l.sessions.length .closed
  /-- Starting the service while a session is open changes nothing. -/
  restart : .opened ∈ l.sessions → ∀ opens,
    (l.service.start opens).outcome = .ok () ∧ l.next remote (.start opens) = l
  /-- A service that is stopped can be started if the session that its configuration asks for can
  be opened, and stays as it is otherwise. -/
  starting : l.service.session = none → ∃ options c, Service.planOf config = .ok (options, c) ∧
    ∀ opens, (l.service.start opens).outcome = opens options ∧
      (opens options = .ok () →
        (l.next remote (.start opens)).service.session = some .opened) ∧
      ∀ fault, opens options = .error fault → l.next remote (.start opens) = l
  /-- While the service is stopped no operation works, and nothing is sent. -/
  stopped : l.service.session = none →
    (∀ subject f now,
      l.service.rows subject f now remote l.trace = (.error .notStarted, l.trace)) ∧
    ∀ now addresses credential name options,
      l.service.addNodes now addresses credential name options remote l.trace =
        (.error .notStarted, l.trace)
  /-- While the service is started, asking for rows is sending the statement of the filter, without
  parameters, or nothing if there is none. -/
  started : l.service.session = some .opened →
    ∃ options c, Service.planOf config = .ok (options, c) ∧ ∀ subject f now,
      (∀ fault, f.statement subject now = .error fault →
        l.service.rows subject f now remote l.trace = (.error fault, l.trace)) ∧
      ∀ text, f.statement subject now = .ok text →
        l.service.rows subject f now remote l.trace =
          (c.queried remote l.trace.sent text [], l.trace.ask remote (c.queryRequest text []))

theorem Stage.orderly (supplies : Service.Supplies config options c d) {l : Life}
    (stage : Stage config c d l) : l.Orderly remote config := by
  cases stage with
  | stopped n trace =>
      constructor
      case whole => exact .stopped rfl rfl rfl
      case one_open => simp [List.count_replicate]
      case stop_closes => exact ⟨rfl, by simp [Life.next, closing]⟩
      case restart =>
        intro opened
        cases List.eq_of_mem_replicate opened
      case starting =>
        intro _
        refine ⟨options, c, supplies.planned, fun opens => ?_⟩
        rw [next_start]
        dsimp only
        rw [supplies.start]
        cases opens options with
        | error fault => exact ⟨rfl, nofun, fun _ _ => rfl⟩
        | ok => exact ⟨rfl, fun _ => rfl, nofun⟩
      case stopped =>
        intro _
        exact ⟨fun subject f now => Service.rows_stopped rfl subject f now trace,
          fun now addresses credential name options =>
            Service.addNodes_stopped rfl now addresses credential name options trace⟩
      case started => nofun
  | started n trace =>
      constructor
      case whole => exact .started rfl rfl rfl
      case one_open => simp [List.count_replicate]
      case stop_closes =>
        refine ⟨rfl, ?_⟩
        show (List.replicate n SessionState.closed ++ [SessionState.opened]).set n .closed = _
        rw [closing_last]
        simp
      case restart => exact fun _ _ => ⟨rfl, rfl⟩
      case starting => nofun
      case stopped => nofun
      case started =>
        intro _
        refine ⟨options, c, supplies.planned, fun subject f now => ⟨?_, ?_⟩⟩
        · intro fault failed
          rw [Service.rows_started rfl, failed]
        · intro text compiled
          rw [Service.rows_started rfl, compiled]

end Life

/-- In the course of any calls, a service whose configuration was accepted is orderly. -/
theorem accepted_service_orderly {config : Value} (accepted : Config.Accepted config)
    (remote : Remote) (calls : List Call) :
    (Life.after remote config calls).Orderly remote config := by
  obtain ⟨options, c, d, supplies⟩ := accepted.supplies
  have stage := Life.after_induction (P := Life.Stage config c d) remote (.stopped 0 {})
    (fun l call stage => stage.next supplies call) calls
  exact stage.orderly supplies

/-- What names a server and an account, and nothing else. -/
def plainContent : Fields :=
  [("server", .text "orion.test"), ("username", .text "admin"), ("password", .text "secret")]

/-- The configuration that it is accepted as. -/
def plainConfig : Value :=
  .object
    [("swis", .object (plainContent ++ Config.swisDefaults)),
     ("discovery", .object Config.discoveryDefaults),
     ("interfaces", .object Config.interfaceDefaults), ("logging", .object Config.loggingDefaults)]

theorem plainConfig_accepted : Config.Accepted plainConfig :=
  ⟨.object [("swis", .object plainContent)], rfl⟩

/-- Calls to a service that is asked too early, started twice, stopped and not started again. -/
def plainCalls : List Call :=
  [.rows .node {} ⟨0, none, calendarLength_pos⟩, .start fun _ => .ok (), .start fun _ => .ok (),
   .rows .node {} ⟨0, none, calendarLength_pos⟩, .stop, .start fun _ => .error .badCertificate]

theorem accepted_service_orderly_plain : Config.Accepted plainConfig ∧
    (Life.after (.answering []) plainConfig plainCalls).Orderly (.answering []) plainConfig :=
  ⟨plainConfig_accepted, accepted_service_orderly plainConfig_accepted _ _⟩

end NodeInventory
