import NodeInventory.Proofs.Discovery.Deletion

/-!
# When a discovery has succeeded

A report has succeeded by one of two statuses: that of the log row, or, when there is no log row,
the one that the wait ended with.  So a run whose wait ends with a finished status counts as a
success although the log is missing and nothing was fetched, `missing_log_succeeds`; in every other
run success means that the log row says so, `discover_succeeded_iff`.
-/

namespace NodeInventory

open Exchange

variable {remote : Remote}

/-- What a report of a missing log says. -/
def missingLogMessage : Value := .text "Discovery log not found"

/-! ### Waiting -/

/-- A wait that ends well ends with the status of a job that has ended. -/
theorem waitFrom_terminal (c : Connection) (plan : PollPlan) (job : Value) (start : Rat) :
    ∀ (left polls : Nat) {trace after : Trace} {status : Status},
      waitFrom c plan job start left polls remote trace = (.ok status, after) →
        status.isTerminal = true
  | 0, _, _, _, _, run => by cases run
  | left + 1, polls, trace, after, status, run => by
      unfold waitFrom at run
      obtain ⟨polled, asked, -, run⟩ := bind_eq_ok.mp run
      obtain ⟨now, timed, -, run⟩ := bind_eq_ok.mp run
      obtain ⟨_, told, -, run⟩ := bind_eq_ok.mp run
      split at run
      case isTrue ended =>
        cases run
        exact ended
      case isFalse =>
        obtain ⟨up, _, -, run⟩ := bind_eq_ok.mp run
        split at run
        · cases run
        · split at run
          · cases run
          · obtain ⟨_, paused, -, run⟩ := bind_eq_ok.mp run
            exact waitFrom_terminal c plan job start left (polls + 1) run

theorem wait_terminal {c : Connection} {plan : PollPlan} {job : Value} {trace after : Trace}
    {status : Status} (run : wait c plan job remote trace = (.ok status, after)) :
    status.isTerminal = true := by
  unfold wait at run
  obtain ⟨start, _, -, run⟩ := bind_eq_ok.mp run
  obtain ⟨left, _, -, run⟩ := bind_eq_ok.mp run
  exact waitFrom_terminal c plan job start left 1 run

/-! ### The stages of a discovery -/

/-- What the stages of a discovery lead to: the job, the status that the wait ends with, the rows
of the log query with the log row in them, and the trace after each stage. -/
structure Stages where
  job : Job
  polled : Status
  profile : Value
  rows : Value
  log : Option DiscoveryLog
  submitted : Trace
  waited : Trace
  logged : Trace

/-- The stages are those of a discovery. -/
structure Stages.Reached (s : Stages) (d : Discoverer) (c : Connection) (now : DateTime)
    (addresses credential name : Value) (remote : Remote) (trace : Trace) : Prop where
  submits : submit c d.settings now addresses credential name remote trace =
    (.ok s.job, s.submitted)
  waits : wait c d.plan s.job.id remote s.submitted = (.ok s.polled, s.waited)
  ended : s.polled.isTerminal = true
  profiled : profileNumber s.job.id = .ok s.profile
  answered : c.queried remote s.waited.sent logQuery [("profileId", s.profile)] = .ok s.rows
  found : logIn s.rows = .ok s.log
  asked : s.logged.sent = s.waited.sent ++ [c.logRequest s.profile]

/-- What a report owes to the stages. -/
structure Stages.Account (s : Stages) (c : Connection) (remote : Remote) (report : Report)
    (after : Trace) : Prop where
  succeeded : report.succeeded = true ↔
    (∃ l, s.log = some l ∧ l.result = .finished) ∨ (s.log = none ∧ s.polled = .finished)
  message : report.errorMessage = s.log.elim missingLogMessage DiscoveryLog.errorMessage
  unlogged : s.log = none → report.nodes = [] ∧ after = s.logged
  fetched : ∀ l, s.log = some l → l.result = .finished → ∃ (entities : List Entity)
    (more : List Request), after.sent = s.logged.sent ++ c.itemRequest l.batch :: more ∧
      c.queried remote s.logged.sent itemQuery [("batchId", l.batch)] >>= entitiesOf =
        .ok entities

theorem fetchLog_reached {c : Connection} {job : Value} {trace after : Trace}
    {log : Option DiscoveryLog} (run : fetchLog c job remote trace = (.ok log, after)) :
    ∃ profile rows, profileNumber job = .ok profile ∧
      c.queried remote trace.sent logQuery [("profileId", profile)] = .ok rows ∧
      logIn rows = .ok log ∧ after.sent = trace.sent ++ [c.logRequest profile] := by
  obtain ⟨added, sent, holds⟩ := @fetchLog_sends remote c job trace
  rw [run] at sent holds
  rcases holds with ⟨_, ⟨⟩, -⟩ | ⟨profile, profiled, rfl, read⟩
  obtain ⟨rows, answered, found⟩ := Outcome.bind_eq_ok.mp read.symm
  exact ⟨profile, rows, profiled, answered, found, sent⟩

theorem fetchEntities_reached {c : Connection} {batch : Value} {trace after : Trace}
    {entities : List Entity} (run : fetchEntities c batch remote trace = (.ok entities, after)) :
    c.queried remote trace.sent itemQuery [("batchId", batch)] >>= entitiesOf = .ok entities ∧
      after.sent = trace.sent ++ [c.itemRequest batch] := by
  obtain ⟨added, sent, rfl, read⟩ := @fetchEntities_sends remote c batch trace
  rw [run] at sent read
  exact ⟨read.symm, sent⟩

/-- Without a log row the report has the polled status, otherwise that of the row. -/
theorem reconcile_account {c : Connection} {s : Stages} {options : ReconcileOptions}
    {report : Report} {after : Trace}
    (run : reconcile c s.job.id s.polled s.log options remote s.logged = (.ok report, after)) :
    s.Account c remote report after := by
  unfold reconcile at run
  cases log : s.log with
  | none =>
      rw [log] at run
      cases run
      refine ⟨?_, by rw [log]; rfl, fun _ => ⟨rfl, rfl⟩, fun l found => ?_⟩
      · simp [Report.succeeded, log]
      · rw [log] at found
        cases found
  | some l =>
      rw [log] at run
      dsimp only at run
      split at run
      case isFalse unfinished =>
        cases run
        refine ⟨?_, by rw [log]; rfl, fun none_ => ?_, fun l' found finished => ?_⟩
        · simp [Report.succeeded, log]
        · rw [log] at none_
          cases none_
        · rw [log] at found
          cases found
          exact absurd finished unfinished
      case isTrue finished =>
        obtain ⟨entities, listed, fetch, run⟩ := bind_eq_ok.mp run
        obtain ⟨outcomes, passed, passes, run⟩ := bind_eq_ok.mp run
        cases run
        obtain ⟨read, asked⟩ := fetchEntities_reached fetch
        obtain ⟨more, sent, -⟩ := @reconcileNodes_sends remote c options _ listed
        rw [passes] at sent
        refine ⟨?_, by rw [log]; rfl, fun none_ => ?_, fun l' found _ => ?_⟩
        · simp [Report.succeeded, log]
        · rw [log] at none_
          cases none_
        · rw [log] at found
          cases found
          exact ⟨entities, more, by simpa [asked] using sent, read⟩

/-! ### Success -/

section account

variable {s : Stages} {c : Connection} {report : Report} {after : Trace}

theorem Stages.Account.success_means (h : s.Account c remote report after) :
    (report.succeeded = true → ∃ l, s.log = some l ∧ l.result = .finished) ↔
      ¬(s.log = none ∧ s.polled = .finished) := by
  constructor
  · rintro only ⟨none_, finished⟩
    obtain ⟨l, some_, -⟩ := only (h.succeeded.mpr (.inr ⟨none_, finished⟩))
    rw [none_] at some_
    cases some_
  · intro other success
    rcases h.succeeded.mp success with logged | unlogged
    · exact logged
    · exact absurd unlogged other

theorem Stages.Account.message_means (h : s.Account c remote report after) :
    (report.errorMessage = missingLogMessage → report.succeeded = false) ↔
      ¬(s.log = none ∧ s.polled = .finished) ∧
        ∀ l, s.log = some l → l.errorMessage = missingLogMessage → l.result ≠ .finished := by
  have message := h.message
  rw [← Bool.not_eq_true, h.succeeded]
  cases log : s.log with
  | none =>
      have missing : report.errorMessage = missingLogMessage := by rw [message, log]; rfl
      simp [missing]
  | some l =>
      have told : report.errorMessage = l.errorMessage := by rw [message, log]; rfl
      simp [told]

end account

/-- A discovery that ends well has reached all its stages, and its report accounts for them.  Its
success means that the log says so in every case but one: there is no log row and the wait has
ended with a finished status.  The message of a missing log goes with a success in this case, and
when the row of a finished log has the same message. -/
theorem discover_succeeded_iff {d : Discoverer} {c : Connection} {now : DateTime}
    {addresses credential name : Value} {options : ReconcileOptions} {trace after : Trace}
    {report : Report}
    (run : d.discover c now addresses credential name options remote trace =
      (.ok report, after)) :
    ∃ s : Stages, s.Reached d c now addresses credential name remote trace ∧
      s.Account c remote report after ∧
      ((report.succeeded = true → ∃ l, s.log = some l ∧ l.result = .finished) ↔
        ¬(s.log = none ∧ s.polled = .finished)) ∧
      ((report.errorMessage = missingLogMessage → report.succeeded = false) ↔
        ¬(s.log = none ∧ s.polled = .finished) ∧
          ∀ l, s.log = some l → l.errorMessage = missingLogMessage → l.result ≠ .finished) := by
  unfold Discoverer.discover at run
  obtain ⟨job, submitted, submits, run⟩ := bind_eq_ok.mp run
  obtain ⟨polled, waited, waits, run⟩ := bind_eq_ok.mp run
  obtain ⟨log, logged, logs, run⟩ := bind_eq_ok.mp run
  obtain ⟨profile, rows, profiled, answered, found, asked⟩ := fetchLog_reached logs
  let s : Stages := ⟨job, polled, profile, rows, log, submitted, waited, logged⟩
  have account : s.Account c remote report after := reconcile_account run
  exact ⟨s, ⟨submits, waits, wait_terminal waits, profiled, answered, found, asked⟩, account,
    account.success_means, account.message_means⟩

theorem run_of_isOk {α : Type} (run : Outcome α × Trace) (h : run.1.isOk = true) :
    ∃ a after, run = (.ok a, after) := by
  obtain ⟨_ | a, after⟩ := run
  · cases h
  · exact ⟨a, after, rfl⟩

/-- A connection to a server at its usual place. -/
def sampleConnection : Connection := { server := .text "orion.test" }

/-- A discovery of one address, with a credential that needs no look-up. -/
def sampleDiscovery : Exchange Report :=
  Discoverer.discover ⟨{}, {}⟩ sampleConnection ⟨0, none, by decide⟩ (.texts ["10.0.0.1"]) (.int 7)
    (.text "job") {}

/-- The answers up to the one that says that the job has finished. -/
def finishedAnswers : List String :=
  ["\"<core/>\"", "\"<interfaces/>\"", "42", "\x7b\"results\": [\x7b\"Status\": 2\x7d]\x7d"]

/-- The answer that has no row. -/
def emptyAnswer : String := "\x7b\"results\": []\x7d"

/-- The answer that has the row of a finished log. -/
def finishedLogAnswer : String :=
  "\x7b\"results\": [\x7b\"Result\": 2, \"BatchID\": \"b\"\x7d]\x7d"

/-- A job that has finished and left no log is a success that fetched nothing. -/
theorem missing_log_succeeds :
    (sampleDiscovery (.answering (finishedAnswers ++ [emptyAnswer])) {}).1.toOption.map
        (fun report => (report.succeeded, report.errorMessage.shown)) =
      some (true, "Discovery log not found") ∧
    (sampleDiscovery (.answering (finishedAnswers ++ [emptyAnswer])) {}).2.sent.length = 5 := by
  decide +kernel

/-- A job that has finished and left the log of an empty batch. -/
theorem discover_succeeded_iff_empty_batch :
    ∃ (report : Report) (after : Trace),
      sampleDiscovery (.answering (finishedAnswers ++ [finishedLogAnswer, emptyAnswer])) {} =
        (.ok report, after) ∧
      ∃ s : Stages, s.Reached ⟨{}, {}⟩ sampleConnection ⟨0, none, by decide⟩ (.texts ["10.0.0.1"])
          (.int 7) (.text "job")
          (.answering (finishedAnswers ++ [finishedLogAnswer, emptyAnswer])) {} ∧
        s.Account sampleConnection
          (.answering (finishedAnswers ++ [finishedLogAnswer, emptyAnswer])) report after ∧
        ((report.succeeded = true → ∃ l, s.log = some l ∧ l.result = .finished) ↔
          ¬(s.log = none ∧ s.polled = .finished)) ∧
        ((report.errorMessage = missingLogMessage → report.succeeded = false) ↔
          ¬(s.log = none ∧ s.polled = .finished) ∧
            ∀ l, s.log = some l → l.errorMessage = missingLogMessage → l.result ≠ .finished) := by
  obtain ⟨report, after, run⟩ := run_of_isOk (sampleDiscovery
    (.answering (finishedAnswers ++ [finishedLogAnswer, emptyAnswer])) {}) (by decide +kernel)
  exact ⟨report, after, run, discover_succeeded_iff run⟩

end NodeInventory
