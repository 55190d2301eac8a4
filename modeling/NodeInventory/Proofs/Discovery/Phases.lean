import NodeInventory.Proofs.Discovery.Batch
import NodeInventory.Proofs.Discovery.Submitting
import NodeInventory.Proofs.Discovery.Waiting

/-!
# The phases of a discovery

A discovery submits its job, polls until the job has ended, asks for the log once, and, if the log
says that the job has finished, asks for the batch once and visits its nodes.  `Course` lists how
far a discovery can get, and what it has sent by then.  The main statement, `discover_phases`, holds
of every discovery: it takes one of these courses; and if there is a log row, then the status that
the wait ends with has no effect on what is sent or returned.
-/

namespace NodeInventory

open Exchange

variable {remote remote' : Remote}

/-! ### After the wait -/

namespace Connection

/-- The log row of a profile, by what the server says after some requests. -/
def logged (c : Connection) (remote : Remote) (before : List Request) (profile : Value) :
    Outcome (Option DiscoveryLog) :=
  c.queried remote before logQuery [("profileId", profile)] >>= logIn

/-- The entities of a batch, by what the server says after some requests. -/
def listed (c : Connection) (remote : Remote) (before : List Request) (batch : Value) :
    Outcome (List Entity) :=
  c.queried remote before itemQuery [("batchId", batch)] >>= entitiesOf

end Connection

/-- The report of a job whose batch is not asked for. -/
def Report.unfetched (job : Value) (status : Status) : Option DiscoveryLog → Report
  | none => { job := job, status := status, errorMessage := missingLogMessage }
  | some l => .ofVisits job l []

theorem Report.unfetched_nodes (job : Value) (status : Status) (log : Option DiscoveryLog) :
    (Report.unfetched job status log).nodes = [] := by
  cases log <;> rfl

/-- How a discovery closes after some requests, once the wait has ended with a status. -/
inductive Closes (c : Connection) (remote : Remote) (patterns : Value) (job : Value)
    (status : Status) (profile : Value) (before : List Request) :
    Outcome Report → List Request → Prop
  /-- The log is asked for in vain. -/
  | unlogged {fault : Fault} : c.logged remote before profile = .error fault →
      Closes c remote patterns job status profile before (.error fault) [c.logRequest profile]
  /-- There is no log row, or it does not say that the job has finished. -/
  | unfinished {log : Option DiscoveryLog} : c.logged remote before profile = .ok log →
      (∀ l, log = some l → l.result ≠ .finished) →
      Closes c remote patterns job status profile before (.ok (.unfetched job status log))
        [c.logRequest profile]
  /-- The job has finished, and its batch is asked for in vain. -/
  | unlisted {l : DiscoveryLog} {fault : Fault} :
      c.logged remote before profile = .ok (some l) → l.result = .finished →
      c.listed remote (before ++ [c.logRequest profile]) l.batch = .error fault →
      Closes c remote patterns job status profile before (.error fault)
        [c.logRequest profile, c.itemRequest l.batch]
  /-- The job has finished, and the nodes of its batch are visited. -/
  | reconciled {l : DiscoveryLog} {entities : List Entity} {visits : List Visit} :
      c.logged remote before profile = .ok (some l) → l.result = .finished →
      c.listed remote (before ++ [c.logRequest profile]) l.batch = .ok entities →
      Tour (Visited c remote patterns) (before ++ [c.logRequest profile] ++ [c.itemRequest l.batch])
        (entities.filter (·.isNode)) visits →
      Closes c remote patterns job status profile before (.ok (.ofVisits job l visits))
        (c.logRequest profile :: c.itemRequest l.batch :: visits.flatMap Visit.sent)

/-- A discovery after its wait. -/
def closing (c : Connection) (job : Value) (options : ReconcileOptions) (status : Status) :
    Exchange Report :=
  fetchLog c job >>= fun log => reconcile c job status log options

theorem reconcile_unfinished {c : Connection} {job : Value} {status : Status}
    {log : Option DiscoveryLog} (options : ReconcileOptions)
    (unfinished : ∀ l, log = some l → l.result ≠ .finished) :
    reconcile c job status log options = ofOutcome (.ok (.unfetched job status log)) := by
  cases log with
  | none => rfl
  | some l =>
      unfold reconcile
      dsimp only
      rw [if_neg (unfinished l rfl)]
      rfl

theorem closing_sends (c : Connection) {job profile : Value} (options : ReconcileOptions)
    (status : Status) (known : profileNumber job = .ok profile) :
    (closing c job options status).Sends remote fun before outcome added =>
      Closes c remote options.patterns job status profile before outcome added := by
  unfold closing
  intro trace
  obtain ⟨_, sent, rfl, read⟩ := @askAbout_known remote _ c job profile logQuery logIn known trace
  rw [← fetchLog_eq] at sent read
  rw [bind_run]
  rcases run : fetchLog c job remote trace with ⟨fault | log, logged⟩
  all_goals
    rw [run] at sent read
    dsimp only at sent read ⊢
  · exact ⟨_, sent, .unlogged read.symm⟩
  · by_cases finished : ∃ l, log = some l ∧ l.result = .finished
    · obtain ⟨l, rfl, finished⟩ := finished
      obtain ⟨more, sent', batch⟩ := @reconcile_batch remote c options _
        (reconcileNode_visited c options) job status l finished logged
      rw [sent] at sent' batch
      rw [List.append_assoc] at sent'
      refine ⟨_, sent', ?_⟩
      rcases batch with ⟨fault, listed, outcome, rfl⟩ |
        ⟨entities, visits, listed, tour, outcome, rfl⟩
      · rw [outcome]
        exact .unlisted read.symm finished listed
      · rw [outcome]
        exact .reconciled read.symm finished listed tour
    · have unfinished (l : DiscoveryLog) (found : log = some l) : l.result ≠ .finished :=
        fun h => finished ⟨l, found, h⟩
      rw [reconcile_unfinished options unfinished]
      exact ⟨_, sent, .unfinished read.symm unfinished⟩

/-! ### From the submission on -/

/-- A discovery, by what it submits. -/
def Submission.discover (x : Submission) (plan : PollPlan) (options : ReconcileOptions)
    (c : Connection) : Exchange Report :=
  Discoverer.discover ⟨x.settings, plan⟩ c x.now x.addresses x.credential x.name options

theorem discover_eq (x : Submission) (plan : PollPlan) (options : ReconcileOptions)
    (c : Connection) :
    x.discover plan options c =
      x.run c >>= fun job => wait c plan job.id >>= closing c job.id options := rfl

/-- How far a discovery gets, and what it has sent by then: the requests of the submission, the
polls, and the requests after the wait. -/
inductive Course (x : Submission) (plan : PollPlan) (options : ReconcileOptions) (c : Connection)
    (remote : Remote) (trace : Trace) : Outcome Report → List Request → Prop
  /-- The submission fails. -/
  | unsubmitted {fault : Fault} {asked : List Request} :
      x.Submits c remote trace.sent (.error fault) asked →
      Course x plan options c remote trace (.error fault) asked
  /-- The wait fails, runs out of time or is given up. -/
  | unended {job : Job} {submitted waited : Trace} {fault : Fault} {asked polls : List Request} :
      x.run c remote trace = (.ok job, submitted) →
      x.Submits c remote trace.sent (.ok job) asked →
      wait c plan job.id remote submitted = (.error fault, waited) →
      (∀ r ∈ polls, c.Polls job.id r) →
      Course x plan options c remote trace (.error fault) (asked ++ polls)
  /-- The job has ended. -/
  | ended {job : Job} {status : Status} {profile : Value} {submitted waited : Trace} {n : Nat}
      {outcome : Outcome Report} {asked more : List Request} :
      x.run c remote trace = (.ok job, submitted) →
      x.Submits c remote trace.sent (.ok job) asked →
      wait c plan job.id remote submitted = (.ok status, waited) → status.isTerminal = true →
      profileNumber job.id = .ok profile → 0 < n →
      Closes c remote options.patterns job.id status profile
        (trace.sent ++ (asked ++ List.replicate n (c.statusRequest profile))) outcome more →
      Course x plan options c remote trace outcome
        (asked ++ List.replicate n (c.statusRequest profile) ++ more)

theorem discover_course (x : Submission) (plan : PollPlan) (options : ReconcileOptions)
    (c : Connection) (remote : Remote) (trace : Trace) :
    ∃ sent, (x.discover plan options c remote trace).2.sent = trace.sent ++ sent ∧
      Course x plan options c remote trace (x.discover plan options c remote trace).1 sent := by
  rw [discover_eq, bind_run]
  obtain ⟨asked, sent, goes⟩ := @submission_sends remote x c trace
  rcases submits : x.run c remote trace with ⟨fault | job, submitted⟩
  all_goals
    rw [submits] at sent goes
    dsimp only at sent goes ⊢
  · exact ⟨asked, sent, .unsubmitted goes⟩
  rw [bind_run]
  obtain ⟨polls, sent', polled⟩ := wait_polls c plan job.id remote submitted
  rcases waits : wait c plan job.id remote submitted with ⟨fault | status, waited⟩
  all_goals
    rw [waits, sent, List.append_assoc] at sent'
    dsimp only at sent' ⊢
  · exact ⟨asked ++ polls, sent', .unended submits goes waits polled⟩
  obtain ⟨profile, n, known, -, rounds⟩ := wait_eq_ok.mp waits
  have asked_polls : waited.sent =
      trace.sent ++ (asked ++ List.replicate n (c.statusRequest profile)) := by
    rw [rounds.sent_eq, sent, List.append_assoc]
  obtain ⟨more, sent', closes⟩ := @closing_sends remote c job.id profile options status known waited
  rw [asked_polls] at sent' closes
  rw [List.append_assoc] at sent'
  exact ⟨_, sent', .ended submits goes waits (wait_terminal waits) known rounds.pos closes⟩

/-! ### The status that a wait ends with -/

/-- A server leads a discovery to a log row, and another one answers only the last poll
differently, with a status that ends the wait as well. -/
structure Repolls (x : Submission) (plan : PollPlan) (c : Connection) (remote remote' : Remote)
    (trace : Trace) (job : Job) (submitted waited logged : Trace) (status status' : Status)
    (l : DiscoveryLog) : Prop where
  submits : x.run c remote trace = (.ok job, submitted)
  waits : wait c plan job.id remote submitted = (.ok status, waited)
  logs : fetchLog c job.id remote waited = (.ok (some l), logged)
  same : Remote.SameBut waited.sent remote remote'
  polled : c.statusOf (remote'.reply waited.sent).answer = .ok status'
  ended : status'.isTerminal = true

/-- An exchange that is put together from requests. -/
abbrev Asks {α : Type} (m : Exchange α) : Prop := Script (fun _ => True) m

theorem submission_asks (x : Submission) (c : Connection) : Asks (x.run c) := by
  have call_asks (v : Verb) (payload : Outcome Fields) : Asks (c.call v payload) :=
    (Script.outcome _).bind fun _ => c.request_script trivial
  have credential_asks : Asks (resolveCredential c x.credential) := by
    unfold resolveCredential
    split
    · exact .pure _
    · refine (c.query_script trivial).bind fun rows => ?_
      rw [credentialIn_eq]
      exact .outcome _
  rw [submission_eq]
  refine (Script.outcome _).bind fun targets => ?_
  refine credential_asks.bind fun number => ?_
  refine (call_asks _ _).bind fun coreItem => ?_
  refine (call_asks _ _).bind fun interfacesItem => ?_
  exact (call_asks _ _).bind fun profile => .outcome _

theorem fetchLog_asks (c : Connection) (job : Value) : Asks (fetchLog c job) := by
  rw [fetchLog_eq]
  refine (Script.outcome _).bind fun profile => ?_
  exact (c.query_script trivial).bind fun rows => .outcome _

theorem reconcile_script (c : Connection) (job : Value) (status : Status)
    (log : Option DiscoveryLog) (options : ReconcileOptions) :
    Script (fun r => (∃ batch, r = c.itemRequest batch) ∨ c.Visits r)
      (reconcile c job status log options) := by
  unfold reconcile
  cases log with
  | none => exact .pure _
  | some l =>
      dsimp only
      split
      · refine Script.bind ((c.query_script (.inl ⟨l.batch, rfl⟩)).bind fun _ => .outcome _)
          fun entities => (Script.mapM (fun node => ?_) _).bind fun _ => .pure _
        exact (reconcileNode_script c options node).mono fun _ => .inr
      · exact .pure _

theorem reconcile_asks (c : Connection) (job : Value) (status : Status)
    (log : Option DiscoveryLog) (options : ReconcileOptions) :
    Asks (reconcile c job status log options) :=
  (reconcile_script c job status log options).mono fun _ _ => trivial

section runs

variable {x : Submission} {plan : PollPlan} {options : ReconcileOptions} {c : Connection}
  {trace submitted waited logged : Trace} {job : Job} {status : Status}
  {log : Option DiscoveryLog}

theorem discover_submitted (submits : x.run c remote trace = (.ok job, submitted)) :
    x.discover plan options c remote trace =
      (wait c plan job.id >>= closing c job.id options) remote submitted := by
  rw [discover_eq, bind_run, submits]

theorem discover_waited (submits : x.run c remote trace = (.ok job, submitted))
    (waits : wait c plan job.id remote submitted = (.ok status, waited)) :
    x.discover plan options c remote trace = closing c job.id options status remote waited := by
  rw [discover_submitted submits, bind_run, waits]

theorem discover_logged (submits : x.run c remote trace = (.ok job, submitted))
    (waits : wait c plan job.id remote submitted = (.ok status, waited))
    (logs : fetchLog c job.id remote waited = (.ok log, logged)) :
    x.discover plan options c remote trace =
      reconcile c job.id status log options remote logged := by
  rw [discover_waited submits waits, closing, bind_run, logs]

/-- Once there is a log row, the status of the last poll is of no effect. -/
theorem Repolls.forgotten {status' : Status} {l : DiscoveryLog}
    (h : Repolls x plan c remote remote' trace job submitted waited logged status status' l) :
    (x.discover plan options c remote' trace).1 = (x.discover plan options c remote trace).1 ∧
      (x.discover plan options c remote' trace).2.sent =
        (x.discover plan options c remote trace).2.sent := by
  obtain ⟨profile, n, -, -, rounds⟩ := wait_eq_ok.mp h.waits
  have later : submitted.sent.length < waited.sent.length := by
    have pos := rounds.pos
    rw [rounds.sent_eq, List.length_append, List.length_replicate]
    omega
  obtain ⟨submitted', submits', quiet⟩ :=
    (submission_asks x c).unmoved h.same rfl h.submits (.inr later)
  obtain ⟨waited', waits', quiet⟩ := wait_unmoved h.waits h.same h.polled h.ended quiet
  obtain ⟨logged', logs', quiet⟩ :=
    (fetchLog_asks c job.id).unmoved h.same quiet h.logs (.inl (Nat.le_refl _))
  have logged_length := (fetchLog_asks c job.id).length_le h.logs
  rw [discover_logged h.submits h.waits h.logs, discover_logged submits' waits' logs']
  rcases run : reconcile c job.id status (some l) options remote logged with ⟨outcome, after⟩
  -- with a log row the report is the same for every polled status
  have run_other : reconcile c job.id status' (some l) options remote logged = (outcome, after) :=
    run
  obtain ⟨after', run', quiet⟩ := (reconcile_asks c job.id status' (some l) options).unmoved
    h.same quiet run_other (.inl logged_length)
  rw [run']
  exact ⟨rfl, Trace.sent_eq_of_mute quiet⟩

end runs

/-! ### All discoveries -/

/-- What is said of a discovery. -/
structure Phased (x : Submission) (plan : PollPlan) (options : ReconcileOptions) (c : Connection)
    (remote : Remote) (trace : Trace) : Prop where
  /-- What it sends are the phases of one of its courses. -/
  course : ∃ sent, (x.discover plan options c remote trace).2.sent = trace.sent ++ sent ∧
    Course x plan options c remote trace (x.discover plan options c remote trace).1 sent
  /-- It ends with the submission if that fails. -/
  unsubmitted : ∀ fault submitted, x.run c remote trace = (.error fault, submitted) →
    x.discover plan options c remote trace = (.error fault, submitted)
  /-- It ends with the wait if that fails, runs out of time or is given up. -/
  unended : ∀ job submitted fault waited, x.run c remote trace = (.ok job, submitted) →
    wait c plan job.id remote submitted = (.error fault, waited) →
    x.discover plan options c remote trace = (.error fault, waited)
  /-- It ends with the log query if there is no log row or the job has not finished. -/
  unfinished : ∀ job submitted status waited log logged,
    x.run c remote trace = (.ok job, submitted) →
    wait c plan job.id remote submitted = (.ok status, waited) →
    fetchLog c job.id remote waited = (.ok log, logged) →
    (∀ l, log = some l → l.result ≠ .finished) →
    ∃ report, x.discover plan options c remote trace = (.ok report, logged) ∧ report.nodes = []
  /-- Once there is a log row, it forgets the status that the wait has ended with. -/
  forgetful : ∀ remote' job submitted waited logged status status' l,
    Repolls x plan c remote remote' trace job submitted waited logged status status' l →
    (x.discover plan options c remote' trace).1 = (x.discover plan options c remote trace).1 ∧
      (x.discover plan options c remote' trace).2.sent =
        (x.discover plan options c remote trace).2.sent

/-- Every discovery goes through its phases, whatever was sent before, whatever the server answers
and however long it takes. -/
theorem discover_phases (x : Submission) (plan : PollPlan) (options : ReconcileOptions)
    (c : Connection) (remote : Remote) (trace : Trace) :
    Phased x plan options c remote trace := by
  refine ⟨discover_course x plan options c remote trace, ?_, ?_, ?_, ?_⟩
  · intro fault submitted fails
    rw [discover_eq, bind_run, fails]
  · intro job submitted fault waited submits fails
    rw [discover_submitted submits, bind_run, fails]
  · intro job submitted status waited log logged submits waits logs unfinished
    refine ⟨.unfetched job.id status log, ?_, Report.unfetched_nodes job.id status log⟩
    rw [discover_logged submits waits logs, reconcile_unfinished options unfinished]
    rfl
  · intro remote' job submitted waited logged status status' l repolls
    exact repolls.forgotten

/-- A discovery of one address, with a credential that needs no look-up. -/
def sampleSubmission : Submission :=
  ⟨{}, ⟨0, none, calendarLength_pos⟩, .texts ["10.0.0.1"], .int 7, .text "job"⟩

/-- The answer to a status query that says that the job has failed. -/
def failedStatusAnswer : String := "\x7b\"results\": [\x7b\"Status\": 3\x7d]\x7d"

open Classical in
/-- A server that gives one other answer. -/
noncomputable def Remote.instead (remote : Remote) (asked : List Request) (body : String) :
    Remote :=
  { remote with
    reply := fun sent =>
      if sent = asked then { remote.reply sent with answer := .response 200 body }
      else remote.reply sent }

theorem Remote.instead_answer (remote : Remote) (asked : List Request) (body : String) :
    ((remote.instead asked body).reply asked).answer = .response 200 body := by
  unfold instead
  dsimp only
  rw [if_pos rfl]

theorem Remote.instead_sameBut (remote : Remote) (asked : List Request) (body : String) :
    Remote.SameBut asked remote (remote.instead asked body) := by
  refine ⟨?_, ?_, rfl, rfl⟩
  · intro sent other
    exact if_neg other
  · unfold instead
    dsimp only
    rw [if_pos rfl]

/-- A server whose job finishes and leaves the log of an empty batch. -/
def emptyBatchServer : Remote := .answering (finishedAnswers ++ [finishedLogAnswer, emptyAnswer])

/-- The status that a wait ends with, and the log row after it. -/
def sampleLog : Exchange (Status × Option DiscoveryLog) :=
  sampleSubmission.run sampleConnection >>= fun job =>
    wait sampleConnection {} job.id >>= fun status =>
      fetchLog sampleConnection job.id >>= fun log => pure (status, log)

/-- A job that leaves the log of an empty batch is reported in the same way whether the last poll
says that it has finished or that it has failed. -/
theorem discover_phases_repolled :
    ∃ (remote' : Remote) (job : Job) (submitted waited logged : Trace) (l : DiscoveryLog),
      Repolls sampleSubmission {} sampleConnection emptyBatchServer remote' {} job submitted waited
        logged .finished .error l ∧
      (sampleSubmission.discover {} {} sampleConnection remote' {}).1 =
        (sampleSubmission.discover {} {} sampleConnection emptyBatchServer {}).1 := by
  have found : (sampleLog emptyBatchServer {}).1.toOption.map
      (fun found => (found.1, found.2.isSome)) = some (.finished, true) := by decide +kernel
  have failed : (sampleConnection.statusOf (.response 200 failedStatusAnswer)).toOption =
      some .error := by decide +kernel
  rcases run : sampleLog emptyBatchServer {} with ⟨_ | ⟨status, log⟩, after⟩
  all_goals rw [run] at found
  · cases found
  obtain ⟨job, submitted, submits, run⟩ := bind_eq_ok.mp run
  obtain ⟨_, waited, waits, run⟩ := bind_eq_ok.mp run
  obtain ⟨_, logged, logs, run⟩ := bind_eq_ok.mp run
  cases run
  cases log with
  | none => cases found
  | some l =>
      cases found
      let remote' := emptyBatchServer.instead waited.sent failedStatusAnswer
      have polled : sampleConnection.statusOf (remote'.reply waited.sent).answer = .ok .error := by
        rw [Remote.instead_answer]
        rcases answer : sampleConnection.statusOf (.response 200 failedStatusAnswer) with _ | other
        all_goals rw [answer] at failed
        · cases failed
        · cases failed
          rfl
      have repolls : Repolls sampleSubmission {} sampleConnection emptyBatchServer remote' {} job
          submitted waited after .finished .error l :=
        ⟨submits, waits, logs, emptyBatchServer.instead_sameBut _ _, polled, rfl⟩
      exact ⟨remote', job, submitted, waited, after, l, repolls,
        ((discover_phases sampleSubmission {} {} sampleConnection emptyBatchServer {}).forgetful
          remote' job submitted waited after .finished .error l repolls).1⟩

end NodeInventory
