import NodeInventory.Config.Defaults
import NodeInventory.Discovery.Discovery
import NodeInventory.Query.Filter
import NodeInventory.Service.Session

/-!
# The inventory service

The service opens a session with one server, answers read queries and adds nodes.  It is started
and stopped any number of times; starting it while its session is open changes nothing, and
nothing but starting and stopping works before it has been started.
-/

namespace NodeInventory

/-- Whether the session of a service is open. -/
inductive SessionState where
  | opened | closed
  deriving DecidableEq, Repr

/-- A service and its parts, those that there are. -/
structure Service where
  config : Value
  session : Option SessionState := none
  client : Option Connection := none
  discoverer : Option Discoverer := none

namespace Service

/-- What starting a service comes to: the outcome, the service after it, and the session that was
opened. -/
structure Started where
  outcome : Outcome Unit
  service : Service
  opened : Option SessionOptions := none

/-- The session and the connection that a configuration asks for. -/
def planOf (config : Value) : Outcome (SessionOptions × Connection) := do
  let swis ← config.field "swis"
  let security ← Config.sessionSecurity config
  let part (key : String) : Value := (Fields.find? security key).getD .null
  let server ← swis.field "server"
  let port ← swis.field "port"
  let username ← swis.field "username"
  let password ← swis.field "password"
  pure (⟨username, password, part "timeout_seconds", part "ssl_verify", part "ca_cert_path"⟩,
    { server := server, port := port })

/-- Starts a service: opens a session, then builds the client, then what runs discoveries.  What
was built stays when a later part fails.  `opens` says whether a session can be opened. -/
def start (s : Service) (opens : SessionOptions → Outcome Unit := fun _ => .ok ()) : Started :=
  if s.session = some .opened then { outcome := .ok (), service := s }
  else
    match planOf s.config with
    | .error fault => { outcome := .error fault, service := s }
    | .ok (options, connection) =>
        match opens options with
        | .error fault => { outcome := .error fault, service := s }
        | .ok () =>
            let s := { s with session := some .opened }
            match Connection.ready (some connection) true with
            | .error fault => { outcome := .error fault, service := s, opened := some options }
            | .ok client =>
                let s := { s with client := some client }
                match Discoverer.ofConfig s.config with
                | .error fault =>
                    { outcome := .error fault, service := s, opened := some options }
                | .ok discoverer =>
                    { outcome := .ok ()
                      service := { s with discoverer := some discoverer }
                      opened := some options }

/-- Stops a service. -/
def stop (s : Service) : Service := { config := s.config }

/-- The service after its session was lost. -/
def loseSession (s : Service) : Service := { s with session := s.session.map fun _ => .closed }

/-- The client of a service that has been started. -/
def startedClient (s : Service) : Outcome Connection :=
  match s.client with
  | some c => .ok c
  | none => .error .notStarted

/-- The rows that a filter asks for. -/
def rows (s : Service) (subject : Subject) (f : Filter) (now : DateTime) : Exchange Value := do
  let c ← s.startedClient
  let text ← f.statement subject now
  c.query text []

/-- Discovers nodes and reconciles the inventory with them. -/
def addNodes (s : Service) (now : DateTime) (addresses credential name : Value)
    (options : ReconcileOptions) : Exchange Report := do
  let c ← s.startedClient
  match s.discoverer with
  | some d => d.discover c now addresses credential name options
  | none => Exchange.fail (.noAttribute .null "discover")

end Service

end NodeInventory
