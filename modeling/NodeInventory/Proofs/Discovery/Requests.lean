import NodeInventory.Discovery.Discovery
import NodeInventory.Proofs.Remote.Sending

/-!
# The requests of the parts of a discovery

A status, a log, a batch and the interfaces of a node are each read by one query, and what is read
is the rows of its answer.  A wait sends nothing but status queries; it only posts, and so does a
submission.
-/

namespace NodeInventory

open Exchange

variable {remote : Remote}

/-! ### Reading results -/

/-- The log row in the rows of the log query, when there is one. -/
def logIn (rows : Value) : Outcome (Option DiscoveryLog) :=
  if rows.truthy then do
    let row ← rows.first
    some <$> DiscoveryLog.ofRow row
  else .ok none

/-- The status in the rows of the status query: unknown when there is none. -/
def statusIn (rows : Value) : Outcome Status :=
  if rows.truthy then do
    let row ← rows.first
    Status.ofValue (← row.get "Status")
  else .ok .unknown

/-- The request that asks for the status of a profile. -/
def Connection.statusRequest (c : Connection) (profile : Value) : Request :=
  c.queryRequest statusQuery [("profileId", profile)]

/-- The request that asks for the log of a profile. -/
def Connection.logRequest (c : Connection) (profile : Value) : Request :=
  c.queryRequest logQuery [("profileId", profile)]

/-- The request that asks for the entities of a batch. -/
def Connection.itemRequest (c : Connection) (batch : Value) : Request :=
  c.queryRequest itemQuery [("batchId", batch)]

/-- The request that asks for the interfaces of a node. -/
def Connection.interfaceRequest (c : Connection) (number : Int) : Request :=
  c.queryRequest interfaceQuery [("nodeId", .int number)]

theorem fetchEntities_sends (c : Connection) (batch : Value) :
    (fetchEntities c batch).Sends remote fun before outcome added =>
      added = [c.itemRequest batch] ∧
        outcome = c.queried remote before itemQuery [("batchId", batch)] >>= entitiesOf := by
  refine (c.query_sends itemQuery rfl).bind_ofOutcome.mono ?_
  rintro _ _ _ ⟨_, ⟨rfl, rfl⟩, rfl⟩
  exact ⟨rfl, rfl⟩

theorem fetchInterfaces_sends (c : Connection) (number : Int) :
    (fetchInterfaces c (.int number)).Sends remote fun before outcome added =>
      added = [c.interfaceRequest number] ∧
        outcome = c.queried remote before interfaceQuery [("nodeId", .int number)] >>=
          interfacesOf := by
  refine (c.query_sends interfaceQuery rfl).bind_ofOutcome.mono ?_
  rintro _ _ _ ⟨_, ⟨rfl, rfl⟩, rfl⟩
  exact ⟨rfl, rfl⟩

/-- Asks something about the profile of a job, and reads it from the rows of the answer. -/
def askAbout {α : Type} (c : Connection) (job : Value) (text : String)
    (read : Value → Outcome α) : Exchange α :=
  ofOutcome (profileNumber job) >>= fun profile =>
    c.query text [("profileId", profile)] >>= fun rows => ofOutcome (read rows)

theorem askAbout_known {α : Type} (c : Connection) {job profile : Value} (text : String)
    (read : Value → Outcome α) (known : profileNumber job = .ok profile) :
    (askAbout c job text read).Sends remote fun before outcome added =>
      added = [c.queryRequest text [("profileId", profile)]] ∧
        outcome = c.queried remote before text [("profileId", profile)] >>= read := by
  unfold askAbout
  rw [known]
  refine (c.query_sends text rfl).bind_ofOutcome.mono ?_
  rintro before _ _ ⟨_, ⟨rfl, rfl⟩, rfl⟩
  exact ⟨rfl, rfl⟩

/-- A profile is asked about once, unless the job's identifier cannot be read. -/
theorem askAbout_sends {α : Type} (c : Connection) (job : Value) (text : String)
    (read : Value → Outcome α) :
    (askAbout c job text read).Sends remote fun before outcome added =>
      (∃ fault, outcome = .error fault ∧ added = []) ∨
        ∃ profile, profileNumber job = .ok profile ∧
          added = [c.queryRequest text [("profileId", profile)]] ∧
          outcome = c.queried remote before text [("profileId", profile)] >>= read := by
  cases known : profileNumber job with
  | error fault =>
      unfold askAbout
      rw [known]
      refine (sends_ofOutcome (.error fault)).mono ?_
      rintro before _ _ ⟨rfl, rfl⟩
      exact .inl ⟨fault, rfl, rfl⟩
  | ok profile =>
      refine (askAbout_known c text read known).mono ?_
      rintro before _ _ ⟨rfl, rfl⟩
      exact .inr ⟨profile, rfl, rfl, rfl⟩

theorem fetchStatus_eq (c : Connection) (job : Value) :
    fetchStatus c job = askAbout c job statusQuery statusIn := by
  unfold fetchStatus askAbout
  refine congrArg (ofOutcome _ >>= ·) (funext fun profile => ?_)
  refine congrArg (c.query _ _ >>= ·) (funext fun rows => ?_)
  unfold statusIn
  split
  · rw [ofOutcome_bind]
    refine congrArg (ofOutcome _ >>= ·) (funext fun row => ?_)
    exact (ofOutcome_bind _ _).symm
  · rfl

theorem fetchLog_eq (c : Connection) (job : Value) :
    fetchLog c job = askAbout c job logQuery logIn := by
  unfold fetchLog askAbout
  refine congrArg (ofOutcome _ >>= ·) (funext fun profile => ?_)
  refine congrArg (c.query _ _ >>= ·) (funext fun rows => ?_)
  unfold logIn
  split
  · rw [ofOutcome_bind]
    refine congrArg (ofOutcome _ >>= ·) (funext fun row => ?_)
    cases DiscoveryLog.ofRow row <;> rfl
  · rfl

theorem fetchLog_sends (c : Connection) (job : Value) :
    (fetchLog c job).Sends remote fun before outcome added =>
      (∃ fault, outcome = .error fault ∧ added = []) ∨
        ∃ profile, profileNumber job = .ok profile ∧ added = [c.logRequest profile] ∧
          outcome = c.queried remote before logQuery [("profileId", profile)] >>= logIn := by
  rw [fetchLog_eq]
  exact askAbout_sends c job logQuery logIn

/-! ### Polling only -/

/-- A request that asks for the status of a job. -/
def Connection.Polls (c : Connection) (job : Value) (r : Request) : Prop :=
  ∃ profile, profileNumber job = .ok profile ∧ r = c.statusRequest profile

theorem fetchStatus_polls (c : Connection) (job : Value) :
    SendsOnly (c.Polls job) (fetchStatus c job) := by
  intro remote
  rw [fetchStatus_eq]
  refine (askAbout_sends c job statusQuery statusIn).mono ?_
  rintro before outcome _ (⟨_, -, rfl⟩ | ⟨profile, known, rfl, -⟩) r member
  · cases member
  · obtain rfl := List.mem_singleton.mp member
    exact ⟨profile, known, rfl⟩

theorem tellAll_sendsOnly {p : Request → Prop} (listeners : List Listener) (job : Value)
    (polls : Nat) (status : Status) (elapsed : Rat) :
    SendsOnly p (tellAll listeners job polls status elapsed) := by
  unfold tellAll
  refine SendsOnly.forM (fun l => ?_) listeners
  have told : SendsOnly p (l.tell job polls status elapsed) := by
    unfold Listener.tell
    refine (sendsOnly_note _).bind fun _ => ?_
    split
    · exact sendsOnly_fail _
    · exact sendsOnly_pure _
  exact told.attempt.bind fun _ => sendsOnly_pure _

/-- Each round of a wait polls, hence all of them do. -/
theorem waitFrom_polls (c : Connection) (plan : PollPlan) (job : Value) (start : Rat) :
    ∀ left polls : Nat, SendsOnly (c.Polls job) (waitFrom c plan job start left polls)
  | 0, _ => sendsOnly_fail _
  | left + 1, polls => by
      unfold waitFrom
      refine (fetchStatus_polls c job).bind fun status => ?_
      refine sendsOnly_clock.bind fun now => ?_
      refine (tellAll_sendsOnly _ _ _ _ _).bind fun _ => ?_
      split
      · exact sendsOnly_pure _
      · refine (sendsOnly_ofOutcome _).bind fun up => ?_
        split
        · exact sendsOnly_fail _
        · split
          · exact sendsOnly_fail _
          · exact (sendsOnly_pause _).bind fun _ => waitFrom_polls c plan job start left (polls + 1)

theorem wait_polls (c : Connection) (plan : PollPlan) (job : Value) :
    SendsOnly (c.Polls job) (wait c plan job) := by
  unfold wait
  refine sendsOnly_clock.bind fun start => ?_
  exact sendsOnly_horizon.bind fun left => waitFrom_polls c plan job start left 1

/-! ### Posting only -/

/-- A request that posts. -/
def Request.Posts (r : Request) : Prop := r.method = .post

theorem query_posts (c : Connection) (text : String) (parameters : Fields) :
    SendsOnly Request.Posts (c.query text parameters) := by
  unfold Connection.query
  refine (sendsOnly_ofOutcome _).bind fun _ => ?_
  refine (c.request_sendsOnly (show Request.Posts _ from rfl)).bind fun _ => ?_
  refine (sendsOnly_ofOutcome _).bind fun _ => ?_
  exact (sendsOnly_ofOutcome _).bind fun _ => sendsOnly_pure _

theorem invoke_posts (c : Connection) (entity verb : String) (arguments : List Value) :
    SendsOnly Request.Posts (c.invoke entity verb arguments) :=
  c.request_sendsOnly rfl

theorem resolveCredential_posts (c : Connection) (credential : Value) :
    SendsOnly Request.Posts (resolveCredential c credential) := by
  unfold resolveCredential
  split
  · exact sendsOnly_pure _
  · refine (query_posts c _ _).bind fun rows => ?_
    split
    · refine (sendsOnly_ofOutcome _).bind fun row => ?_
      exact (sendsOnly_ofOutcome _).bind fun id => sendsOnly_ofOutcome _
    · exact sendsOnly_fail _

theorem submit_posts (c : Connection) (settings : JobSettings) (now : DateTime)
    (addresses credential name : Value) :
    SendsOnly Request.Posts (submit c settings now addresses credential name) := by
  unfold submit
  refine (sendsOnly_ofOutcome _).bind fun targets => ?_
  dsimp only
  split
  · exact sendsOnly_fail .noTargets
  · refine (resolveCredential_posts c credential).bind fun credential => ?_
    refine (sendsOnly_ofOutcome _).bind fun core => ?_
    refine (invoke_posts c _ _ _).bind fun coreItem => ?_
    refine (sendsOnly_ofOutcome _).bind fun interfaces => ?_
    refine (invoke_posts c _ _ _).bind fun interfacesItem => ?_
    refine (sendsOnly_ofOutcome _).bind fun job => ?_
    exact (invoke_posts c _ _ _).bind fun profile => sendsOnly_pure _

theorem wait_posts (c : Connection) (plan : PollPlan) (job : Value) :
    SendsOnly Request.Posts (wait c plan job) := by
  refine (wait_polls c plan job).mono ?_
  rintro _ ⟨profile, -, rfl⟩
  rfl

end NodeInventory
