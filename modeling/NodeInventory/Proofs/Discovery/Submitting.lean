import NodeInventory.Proofs.Discovery.Requests
import NodeInventory.Proofs.Payload.Building
import Mathlib.Data.List.Nodup

/-!
# Submitting a discovery

A submission finds out what to look at and with which credential, and then calls three verbs of the
server, each on a payload that has to be valid.  `Submits` says how a submission goes: which step
is the first that fails, what has been sent until then, or which job has been started.  The main
statement, `submission_protocol`, holds of every submission: the requests are those of the steps, in
their order and each at most once, and the first failure ends it.
-/

namespace NodeInventory

open Exchange Payload

variable {remote : Remote}

/-! ### The steps of a submission -/

/-- A verb of the server. -/
structure Verb where
  entity : String
  name : String

namespace Verb

/-- Where a verb is invoked. -/
def path (v : Verb) : String := "Invoke/" ++ v.entity ++ "/" ++ v.name

/-- Has a configuration made of what to look at. -/
def createCore : Verb := ⟨"Orion.Discovery", "CreateCorePluginConfiguration"⟩

/-- Has a configuration made of which interfaces to take in. -/
def createInterfaces : Verb := ⟨"Orion.NPM.Interfaces", "CreateInterfacesPluginConfiguration"⟩

/-- Starts a discovery. -/
def start : Verb := ⟨"Orion.Discovery", "StartDiscovery"⟩

end Verb

namespace Connection

/-- The request that invokes a verb on a payload. -/
def verbRequest (c : Connection) (v : Verb) (payload : Fields) : Request :=
  ⟨.post, c.url v.path, some (.list [.object payload])⟩

/-- What the server makes of invoking a verb after some requests. -/
def invoked (c : Connection) (remote : Remote) (before : List Request) (v : Verb)
    (payload : Fields) : Outcome Value :=
  c.outcomeOf v.path (remote.reply (before ++ [c.verbRequest v payload])).answer

/-- The requests that resolve a credential: none for a number, one for anything else. -/
def credentialRequests (c : Connection) : Value → List Request
  | .int _ => []
  | credential => [c.queryRequest credentialQuery [("name", credential)]]

end Connection

/-- The number of a credential in the rows of the look-up. -/
def credentialIn (credential rows : Value) : Outcome Int :=
  if rows.truthy then do
    let row ← rows.first
    (← row.field "ID").toInt
  else .error (.unknownCredential credential.shown)

/-- The number of a credential, by what the server says after some requests. -/
def Connection.resolution (c : Connection) (remote : Remote) (before : List Request) :
    Value → Outcome Int
  | .int n => .ok n
  | credential => c.queried remote before credentialQuery [("name", credential)] >>=
      credentialIn credential

/-- The addresses to look at, of which there has to be one. -/
def usableTargets (addresses : Value) : Outcome (List String) := do
  let targets ← targetsOf addresses
  if targets.isEmpty then .error .noTargets else .ok targets

/-- Invoking a verb on a payload after some requests: an invalid payload is not sent. -/
inductive Called (c : Connection) (remote : Remote) (v : Verb) (payload : Outcome Fields)
    (before : List Request) : Outcome Value → List Request → Prop
  | invalid {fault : Fault} :
      payload = .error fault → Called c remote v payload before (.error fault) []
  | asked {fields : Fields} {outcome : Outcome Value} : payload = .ok fields →
      c.invoked remote before v fields = outcome →
      Called c remote v payload before outcome [c.verbRequest v fields]

/-- Invokes a verb on a payload that has to be valid. -/
def Connection.call (c : Connection) (v : Verb) (payload : Outcome Fields) : Exchange Value :=
  ofOutcome payload >>= fun fields => c.invoke v.entity v.name [.object fields]

theorem call_sends (c : Connection) (v : Verb) (payload : Outcome Fields) :
    (c.call v payload).Sends remote fun before outcome added =>
      Called c remote v payload before outcome added := by
  unfold Connection.call
  cases payload with
  | error fault =>
      refine (sends_ofOutcome (.error fault)).mono ?_
      rintro before _ _ ⟨rfl, rfl⟩
      exact .invalid rfl
  | ok fields =>
      refine (c.request_sends .post v.path (some (.list [.object fields]))).mono ?_
      rintro before _ _ ⟨rfl, rfl⟩
      exact .asked rfl rfl

theorem credentialIn_eq (credential rows : Value) :
    (if rows.truthy then do
      let row ← rows.first
      (← row.field "ID").toInt
    else Exchange.fail (.unknownCredential credential.shown) : Exchange Int) =
      ofOutcome (credentialIn credential rows) := by
  unfold credentialIn
  split
  · rw [ofOutcome_bind]
    refine congrArg (ofOutcome _ >>= ·) (funext fun row => ?_)
    exact (ofOutcome_bind _ _).symm
  · rfl

theorem resolveCredential_sends (c : Connection) (credential : Value) :
    (resolveCredential c credential).Sends remote fun before outcome added =>
      added = c.credentialRequests credential ∧
        outcome = c.resolution remote before credential := by
  have looked : (c.query credentialQuery [("name", credential)] >>= fun rows =>
      ofOutcome (credentialIn credential rows)).Sends remote fun before outcome added =>
        added = [c.queryRequest credentialQuery [("name", credential)]] ∧
          outcome = c.queried remote before credentialQuery [("name", credential)] >>=
            credentialIn credential := by
    refine (c.query_sends credentialQuery rfl).bind_ofOutcome.mono ?_
    rintro _ _ _ ⟨_, ⟨rfl, rfl⟩, rfl⟩
    exact ⟨rfl, rfl⟩
  simp only [← credentialIn_eq] at looked
  cases credential with
  | int n =>
      refine (sends_ofOutcome (.ok n)).mono ?_
      rintro _ _ _ ⟨rfl, rfl⟩
      exact ⟨rfl, rfl⟩
  | _ => exact looked

/-! ### How a submission goes -/

/-- What is submitted. -/
structure Submission where
  settings : JobSettings
  now : DateTime
  addresses : Value
  credential : Value
  name : Value

namespace Submission

/-- The run of a submission. -/
def run (x : Submission) (c : Connection) : Exchange Job :=
  submit c x.settings x.now x.addresses x.credential x.name

/-- The requests that resolve the credential. -/
def lookup (x : Submission) (c : Connection) : List Request := c.credentialRequests x.credential

/-- The name of the job: the given one, or one that tells the time. -/
def jobName (x : Submission) : Value := x.name.orElse (.text (defaultJobName x.now))

/-- The payload that says what to look at. -/
def corePayload (x : Submission) (targets : List String) (number : Int) : Outcome Fields :=
  NodeInventory.corePayload (.texts targets) (.int number) x.settings.discovery

/-- The payload that says which interfaces to take in. -/
def interfacesPayload (x : Submission) : Outcome Fields :=
  NodeInventory.interfacesPayload x.settings.interfaces

/-- The payload of the job with two configurations. -/
def jobPayload (x : Submission) (coreItem interfacesItem : Value) : Outcome Fields :=
  NodeInventory.jobPayload x.jobName (.list [coreItem, interfacesItem]) x.settings.discovery

variable (x : Submission) (c : Connection) (remote : Remote) (before : List Request)

/-- There is something to look at, and the credential is known. -/
structure Resolves (targets : List String) (number : Int) : Prop where
  targets_found : usableTargets x.addresses = .ok targets
  number_found : c.resolution remote before x.credential = .ok number

/-- The configuration made of what to look at is valid and has been made. -/
structure CreatesCore (targets : List String) (number : Int) (core : Fields)
    (coreItem : Value) : Prop extends x.Resolves c remote before targets number where
  core_valid : x.corePayload targets number = .ok core
  core_made : c.invoked remote (before ++ x.lookup c) .createCore core = .ok coreItem

/-- The requests until both configurations have been made. -/
def asked (core interfaces : Fields) : List Request :=
  x.lookup c ++ [c.verbRequest .createCore core, c.verbRequest .createInterfaces interfaces]

/-- So has been the configuration made of which interfaces to take in. -/
structure CreatesBoth (targets : List String) (number : Int) (core : Fields) (coreItem : Value)
    (interfaces : Fields) (interfacesItem : Value) : Prop
    extends x.CreatesCore c remote before targets number core coreItem where
  interfaces_valid : x.interfacesPayload = .ok interfaces
  interfaces_made : c.invoked remote (before ++ (x.lookup c ++ [c.verbRequest .createCore core]))
    .createInterfaces interfaces = .ok interfacesItem

/-- The ways in which a submission can go after some requests: one for each step that can be the
first to fail, and one in which none fails. -/
inductive Submits : Outcome Job → List Request → Prop
  | untargeted {fault : Fault} :
      usableTargets x.addresses = .error fault → Submits (.error fault) []
  | unresolved {targets : List String} {fault : Fault} :
      usableTargets x.addresses = .ok targets →
      c.resolution remote before x.credential = .error fault →
      Submits (.error fault) (x.lookup c)
  | coreFailed {targets : List String} {number : Int} {fault : Fault} {sent : List Request} :
      x.Resolves c remote before targets number →
      Called c remote .createCore (x.corePayload targets number) (before ++ x.lookup c)
        (.error fault) sent →
      Submits (.error fault) (x.lookup c ++ sent)
  | interfacesFailed {targets : List String} {number : Int} {core : Fields} {coreItem : Value}
      {fault : Fault} {sent : List Request} :
      x.CreatesCore c remote before targets number core coreItem →
      Called c remote .createInterfaces x.interfacesPayload
        (before ++ (x.lookup c ++ [c.verbRequest .createCore core])) (.error fault) sent →
      Submits (.error fault) (x.lookup c ++ c.verbRequest .createCore core :: sent)
  | startFailed {targets : List String} {number : Int} {core interfaces : Fields}
      {coreItem interfacesItem : Value} {fault : Fault} {sent : List Request} :
      x.CreatesBoth c remote before targets number core coreItem interfaces interfacesItem →
      Called c remote .start (x.jobPayload coreItem interfacesItem)
        (before ++ x.asked c core interfaces) (.error fault) sent →
      Submits (.error fault) (x.asked c core interfaces ++ sent)
  | started {targets : List String} {number : Int} {core interfaces job : Fields}
      {coreItem interfacesItem profile : Value} :
      x.CreatesBoth c remote before targets number core coreItem interfaces interfacesItem →
      x.jobPayload coreItem interfacesItem = .ok job →
      c.invoked remote (before ++ x.asked c core interfaces) .start job = .ok profile →
      Submits (.ok ⟨.text profile.shown, targets, number, x.jobName, .inProgress⟩)
        (x.asked c core interfaces ++ [c.verbRequest .start job])

end Submission

/-- A submission, by its steps. -/
theorem submission_eq (x : Submission) (c : Connection) :
    x.run c = ofOutcome (usableTargets x.addresses) >>= fun targets =>
      resolveCredential c x.credential >>= fun number =>
      c.call .createCore (x.corePayload targets number) >>= fun coreItem =>
      c.call .createInterfaces x.interfacesPayload >>= fun interfacesItem =>
      c.call .start (x.jobPayload coreItem interfacesItem) >>= fun profile =>
      ofOutcome (.ok ⟨.text profile.shown, targets, number, x.jobName, .inProgress⟩) := by
  unfold Submission.run submit usableTargets Connection.call
  simp only [bind_assoc]
  cases targetsOf x.addresses with
  | error fault => rfl
  | ok targets =>
      cases targets with
      | nil => rfl
      | cons target rest => rfl

/-- A submission goes in one of its ways. -/
theorem submission_sends (x : Submission) (c : Connection) :
    (x.run c).Sends remote fun before outcome added => x.Submits c remote before outcome added := by
  rw [submission_eq]
  refine ((sends_ofOutcome _).seq _ fun _ targets _ _ =>
    (resolveCredential_sends c x.credential).seq _ fun _ number _ _ =>
    (call_sends c .createCore (x.corePayload targets number)).seq _ fun _ coreItem _ _ =>
    (call_sends c .createInterfaces x.interfacesPayload).seq _ fun _ interfacesItem _ _ =>
    (call_sends c .start (x.jobPayload coreItem interfacesItem)).seq _ fun _ _ _ _ =>
    sends_ofOutcome _).mono ?_
  intro before outcome added
  -- each step is the first that fails, or leaves its result to the next one
  rintro (⟨fault, rfl, found, rfl⟩ | ⟨targets, _, _, rfl, ⟨found, rfl⟩, went⟩)
  · exact .untargeted found.symm
  rw [List.append_nil] at went
  rcases went with ⟨fault, rfl, rfl, known⟩ | ⟨number, _, _, rfl, ⟨rfl, known⟩, went⟩
  · exact .unresolved found.symm known.symm
  have resolves : x.Resolves c remote before targets number := ⟨found.symm, known.symm⟩
  rcases went with ⟨fault, rfl, called⟩ | ⟨coreItem, _, _, rfl, called, went⟩
  · exact .coreFailed resolves called
  obtain _ | @⟨core, _, valid, made⟩ := called
  have core_ready : x.CreatesCore c remote before targets number core coreItem :=
    { resolves with core_valid := valid, core_made := made }
  rw [List.append_assoc] at went
  rcases went with ⟨fault, rfl, called⟩ | ⟨interfacesItem, _, _, rfl, called, went⟩
  · exact .interfacesFailed core_ready called
  obtain _ | @⟨interfaces, _, valid', made'⟩ := called
  have ready : x.CreatesBoth c remote before targets number core coreItem interfaces
      interfacesItem :=
    { core_ready with interfaces_valid := valid', interfaces_made := made' }
  rw [List.append_assoc, List.append_assoc, List.singleton_append] at went
  rcases went with ⟨fault, rfl, called⟩ | ⟨profile, _, _, rfl, called, rfl, rfl⟩
  · simpa [Submission.asked, Submission.lookup] using Submission.Submits.startFailed ready called
  · obtain _ | ⟨valid, begun⟩ := called
    simpa [Submission.asked, Submission.lookup] using Submission.Submits.started ready valid begun

/-! ### Stopping at the first failure -/

theorem resolveCredential_stops (c : Connection) (credential : Value) :
    (resolveCredential c credential).Sends remote (Stops remote) := by
  unfold resolveCredential
  split
  · exact stops_ofOutcome _
  · refine (c.query_stops credentialQuery rfl).stops_bind fun rows => ?_
    rw [credentialIn_eq]
    exact stops_ofOutcome _

theorem call_stops (c : Connection) (v : Verb) (payload : Outcome Fields) :
    (c.call v payload).Sends remote (Stops remote) :=
  (stops_ofOutcome _).stops_bind fun _ => c.request_stops _ _ _

/-- A submission ends with the first request that fails, and with its fault. -/
theorem submission_stops (x : Submission) (c : Connection) :
    (x.run c).Sends remote (Stops remote) := by
  rw [submission_eq]
  refine (stops_ofOutcome _).stops_bind fun _ => ?_
  refine (resolveCredential_stops c x.credential).stops_bind fun _ => ?_
  refine (call_stops c _ _).stops_bind fun _ => ?_
  refine (call_stops c _ _).stops_bind fun _ => ?_
  exact (call_stops c _ _).stops_bind fun _ => stops_ofOutcome _

/-! ### Starting the job -/

/-- A configuration in the payload of a job. -/
def pluginItem (configuration : String) : Value :=
  .object [("PluginConfigurationItem", .text configuration)]

namespace Submission

variable {x : Submission} {c : Connection} {before sent : List Request} {outcome : Outcome Job}

/-- Both configurations have been made and are texts, and the payload of the job is valid and holds
them in their order. -/
structure Ready (x : Submission) (c : Connection) (remote : Remote) (before : List Request)
    (targets : List String) (number : Int) (core interfaces job : Fields)
    (coreText interfacesText : String) : Prop
    extends x.CreatesBoth c remote before targets number core (.text coreText) interfaces
      (.text interfacesText) where
  job_valid : x.jobPayload (.text coreText) (.text interfacesText) = .ok job
  configurations : Fields.find? job "PluginConfigurations" =
    some (.list [pluginItem coreText, pluginItem interfacesText])

/-- The job that the server starts under a number. -/
def started (x : Submission) (targets : List String) (number : Int) (profile : Value) : Job :=
  ⟨.text profile.shown, targets, number, x.jobName, .inProgress⟩

theorem CreatesBoth.ready {targets : List String} {number : Int} {core interfaces job : Fields}
    {coreItem interfacesItem : Value}
    (made : x.CreatesBoth c remote before targets number core coreItem interfaces interfacesItem)
    (valid : x.jobPayload coreItem interfacesItem = .ok job) : ∃ coreText interfacesText,
      x.Ready c remote before targets number core interfaces job coreText interfacesText := by
  obtain ⟨texts, items, found⟩ := jobPayload_configurations valid
  obtain ⟨coreText, _, rfl, rfl, rest⟩ := List.map_eq_cons_iff.mp items.symm
  obtain ⟨interfacesText, rfl, rfl⟩ := List.map_eq_singleton_iff.mp rest
  exact ⟨coreText, interfacesText, { made with job_valid := valid, configurations := found }⟩

/-- A submission fails before the job is started, or all it takes to start the job is there. -/
theorem Submits.reaches (goes : x.Submits c remote before outcome sent) :
    (∃ fault core interfaces, outcome = .error fault ∧ sent <+: x.asked c core interfaces) ∨
      ∃ targets number core interfaces job coreText interfacesText,
        x.Ready c remote before targets number core interfaces job coreText interfacesText ∧
        sent = x.asked c core interfaces ++ [c.verbRequest .start job] ∧
        outcome = (c.invoked remote (before ++ x.asked c core interfaces) .start job).map
          (x.started targets number) := by
  cases goes with
  | untargeted => exact .inl ⟨_, [], [], rfl, List.nil_prefix⟩
  | unresolved => exact .inl ⟨_, [], [], rfl, List.prefix_append _ _⟩
  | coreFailed _ called =>
      cases called with
      | invalid => exact .inl ⟨_, [], [], rfl, by simp [asked]⟩
      | @asked core => exact .inl ⟨_, core, [], rfl, by simp [asked]⟩
  | @interfacesFailed _ _ core _ _ _ _ called =>
      cases called with
      | invalid => exact .inl ⟨_, core, [], rfl, by simp [asked]⟩
      | @asked interfaces => exact .inl ⟨_, core, interfaces, rfl, by simp [asked]⟩
  | @startFailed _ _ core interfaces _ _ _ _ made called =>
      cases called with
      | invalid => exact .inl ⟨_, core, interfaces, rfl, by simp⟩
      | asked valid refused =>
          obtain ⟨coreText, interfacesText, ready⟩ := made.ready valid
          refine .inr ⟨_, _, _, _, _, coreText, interfacesText, ready, rfl, ?_⟩
          rw [refused]
          rfl
  | started made valid begun =>
      obtain ⟨coreText, interfacesText, ready⟩ := made.ready valid
      refine .inr ⟨_, _, _, _, _, coreText, interfacesText, ready, rfl, ?_⟩
      rw [begun]
      rfl

/-! ### The protocol -/

/-- The requests that start the job, from the first to the last one. -/
def steps (x : Submission) (c : Connection) (core interfaces job : Fields) : List Request :=
  x.asked c core interfaces ++ [c.verbRequest .start job]

theorem steps_once (x : Submission) (c : Connection) (core interfaces job : Fields) :
    ((x.steps c core interfaces job).map Request.url).Nodup := by
  have paths : (["Query", Verb.createCore.path, Verb.createInterfaces.path,
      Verb.start.path].map c.url).Nodup := by
    refine List.Nodup.map c.url_injective ?_
    decide
  refine paths.sublist ?_
  unfold steps asked lookup Connection.credentialRequests
  split
  · exact List.sublist_cons_self _ _
  · exact List.Sublist.refl _

theorem asked_not_start {core interfaces : Fields} {r : Request}
    (member : r ∈ x.asked c core interfaces) : r.url ≠ c.url Verb.start.path := by
  intro starts
  have once := x.steps_once c core interfaces []
  rw [steps, List.map_append, List.nodup_append] at once
  exact once.2.2 _ (List.mem_map_of_mem member) _ (List.mem_singleton_self _) starts

theorem not_int_of_mem_steps {core interfaces job : Fields}
    (member : c.queryRequest credentialQuery [("name", x.credential)] ∈
      x.steps c core interfaces job) (n : Int) : x.credential ≠ .int n := by
  intro given
  have none_ : x.lookup c = [] := by
    unfold lookup
    rw [given]
    rfl
  rw [steps, asked, none_] at member
  have path : c.url "Query" ∈ [Verb.createCore.path, Verb.createInterfaces.path,
      Verb.start.path].map c.url := List.mem_map_of_mem (f := Request.url) member
  rw [List.mem_map_of_injective c.url_injective] at path
  exact absurd path (by decide)

/-- What is sent is what the steps begin with. -/
theorem Submits.prefix_steps (goes : x.Submits c remote before outcome sent) :
    ∃ core interfaces job, sent <+: x.steps c core interfaces job := by
  rcases goes.reaches with ⟨_, core, interfaces, -, early⟩ |
    ⟨_, _, core, interfaces, job, _, _, -, rfl, -⟩
  · exact ⟨core, interfaces, [], early.trans (List.prefix_append _ _)⟩
  · exact ⟨core, interfaces, job, List.prefix_rfl⟩

theorem Submits.lookup_prefix {targets : List String}
    (goes : x.Submits c remote before outcome sent)
    (found : usableTargets x.addresses = .ok targets) : x.lookup c <+: sent := by
  cases goes with
  | untargeted failed =>
      rw [found] at failed
      cases failed
  | unresolved => exact List.prefix_rfl
  | coreFailed => exact List.prefix_append _ _
  | interfacesFailed => exact List.prefix_append _ _
  | startFailed => exact (List.prefix_append _ _).trans (List.prefix_append _ _)
  | started => exact (List.prefix_append _ _).trans (List.prefix_append _ _)

theorem Submits.of_unusable {fault : Fault} (goes : x.Submits c remote before outcome sent)
    (unusable : usableTargets x.addresses = .error fault) :
    outcome = .error fault ∧ sent = [] := by
  have other (targets : List String) : usableTargets x.addresses ≠ .ok targets := by
    rw [unusable]
    exact nofun
  cases goes with
  | untargeted failed =>
      cases unusable.symm.trans failed
      exact ⟨rfl, rfl⟩
  | unresolved found => exact absurd found (other _)
  | coreFailed known => exact absurd known.targets_found (other _)
  | interfacesFailed made => exact absurd made.targets_found (other _)
  | startFailed made => exact absurd made.targets_found (other _)
  | started made => exact absurd made.targets_found (other _)

/-- What is said of a submission by what was sent before it and by it. -/
structure Follows (x : Submission) (c : Connection) (remote : Remote) (before : List Request)
    (outcome : Outcome Job) (sent : List Request) : Prop where
  /-- Each step is taken when the ones before it have ended well, and the first one that fails ends
  the submission with its fault. -/
  goes : x.Submits c remote before outcome sent
  /-- The steps are taken in their order, without leaving one out. -/
  ordered : ∃ core interfaces job, sent <+: x.steps c core interfaces job
  /-- No request goes where another one went. -/
  once : (sent.map Request.url).Nodup
  /-- The credential is looked up unless it is a number. -/
  looks_up : ∀ targets, usableTargets x.addresses = .ok targets →
    (c.queryRequest credentialQuery [("name", x.credential)] ∈ sent ↔
      ∀ n, x.credential ≠ .int n)
  /-- A request that fails is the last one. -/
  stops : Stops remote before outcome sent
  /-- With nothing to look at nothing is sent. -/
  untargeted : targetsOf x.addresses = .ok [] → outcome = .error .noTargets ∧ sent = []
  /-- The job is started when both configurations have been made and all payloads are valid. -/
  starts : ∀ r ∈ sent, r.url = c.url Verb.start.path →
    ∃ targets number core interfaces job coreText interfacesText,
      x.Ready c remote before targets number core interfaces job coreText interfacesText ∧
      sent = x.steps c core interfaces job
  /-- The job has the text of the server's answer as its identifier, and the credential that was
  found. -/
  returns : ∀ job, outcome = .ok job →
    ∃ targets number core interfaces payload coreText interfacesText profile,
      x.Ready c remote before targets number core interfaces payload coreText interfacesText ∧
      sent = x.steps c core interfaces payload ∧
      c.invoked remote (before ++ x.asked c core interfaces) .start payload = .ok profile ∧
      job = ⟨.text profile.shown, targets, number, x.jobName, .inProgress⟩

theorem Submits.follows (goes : x.Submits c remote before outcome sent)
    (stops : Stops remote before outcome sent) : x.Follows c remote before outcome sent := by
  obtain ⟨core, interfaces, job, early⟩ := goes.prefix_steps
  refine ⟨goes, ⟨core, interfaces, job, early⟩, ?_, ?_, stops, ?_, ?_, ?_⟩
  · exact (x.steps_once c core interfaces job).sublist (early.sublist.map _)
  · intro targets found
    constructor
    · intro member
      exact not_int_of_mem_steps (early.subset member)
    · intro other
      refine (goes.lookup_prefix found).subset ?_
      unfold lookup
      cases given : x.credential with
      | int n => exact absurd given (other n)
      | _ => exact List.mem_singleton_self _
  · intro none_
    refine goes.of_unusable ?_
    unfold usableTargets
    rw [none_]
    rfl
  · intro r member url
    rcases goes.reaches with ⟨_, _, _, -, early⟩ |
      ⟨targets, number, core, interfaces, job, coreText, interfacesText, ready, rfl, -⟩
    · exact absurd url (asked_not_start (early.subset member))
    · exact ⟨targets, number, core, interfaces, job, coreText, interfacesText, ready, rfl⟩
  · intro job ended
    rcases goes.reaches with ⟨_, _, _, failed, -⟩ |
      ⟨targets, number, core, interfaces, payload, coreText, interfacesText, ready, rfl, made⟩
    · rw [failed] at ended
      cases ended
    · cases answer : c.invoked remote (before ++ x.asked c core interfaces) .start payload with
      | error fault =>
          rw [made, answer] at ended
          cases ended
      | ok profile =>
          rw [made, answer] at ended
          cases ended
          exact ⟨targets, number, core, interfaces, payload, coreText, interfacesText, profile,
            ready, rfl, answer, rfl⟩

end Submission

/-- Every submission follows the protocol, whatever was sent before and whatever the server
answers. -/
theorem submission_protocol (x : Submission) (c : Connection) (remote : Remote) (trace : Trace) :
    ∃ sent, (x.run c remote trace).2.sent = trace.sent ++ sent ∧
      x.Follows c remote trace.sent (x.run c remote trace).1 sent := by
  obtain ⟨sent, same, goes, stops⟩ := (submission_sends x c).and (submission_stops x c) trace
  exact ⟨sent, same, goes.follows stops⟩

/-- A truth value is no number, so it is looked up: four requests start the job. -/
example : (Submission.run ⟨{}, ⟨0, none, calendarLength_pos⟩, .texts ["10.0.0.1"], .bool true, .null⟩
    { server := .text "orion.test" }
    (.answering ["\x7b\"results\": [\x7b\"ID\": 7\x7d]\x7d", "\"<core/>\"",
      "\"<interfaces/>\"", "42"])
    {}).map (·.toOption.map (·.credential)) (·.sent.length) = (some 7, 4) := by decide +kernel

end NodeInventory
