import NodeInventory.Proofs.Discovery.Requests
import NodeInventory.Proofs.Remote.Script

/-!
# The rounds of a wait

A round of a wait is a poll, after which the listeners are told and the wait ends or goes on
(`waitFrom_round`).  A wait that ends well has gone through at least one of these `Rounds`
(`wait_eq_ok`).  Only the last poll decides what status it ends with: if the server answers this
poll with another status that ends the wait, then the wait ends with that status, and nothing else
is different but what the listeners are told (`wait_unmoved`).
-/

namespace NodeInventory

open Exchange

variable {remote remote' : Remote}

/-! ### One round -/

/-- The status that an answer to a status query gives. -/
def Connection.statusOf (c : Connection) (answer : Answer) : Outcome Status :=
  (c.outcomeOf "Query" answer >>= Connection.rowsOf) >>= statusIn

/-- A trace after some listeners have been told about a poll. -/
def Trace.tell (listeners : List Listener) (job : Value) (polls : Nat) (status : Status)
    (elapsed : Rat) (trace : Trace) : Trace :=
  { trace with
    notices := trace.notices ++ listeners.map fun l => ⟨l.label, job, polls, status, elapsed⟩ }

theorem fetchStatus_run (c : Connection) {job profile : Value}
    (known : profileNumber job = .ok profile) (trace : Trace) :
    fetchStatus c job remote trace =
      (c.statusOf (remote.reply (trace.sent ++ [c.statusRequest profile])).answer,
        trace.ask remote (c.statusRequest profile)) := by
  rw [fetchStatus_eq, askAbout, known]
  show (c.query statusQuery [("profileId", profile)] >>= fun rows => ofOutcome (statusIn rows))
    remote trace = _
  rw [bind_ofOutcome_run, c.query_run statusQuery rfl]
  rfl

theorem attempt_tell_run (l : Listener) (job : Value) (polls : Nat) (status : Status)
    (elapsed : Rat) (trace : Trace) :
    (do
      let _ ← Exchange.attempt (l.tell job polls status elapsed)
      pure () : Exchange Unit) remote trace =
        (.ok (), trace.tell [l] job polls status elapsed) := by
  rw [bind_run, attempt_run]
  show (Except.ok (), (l.tell job polls status elapsed remote trace).2) = _
  unfold Listener.tell
  rw [bind_run]
  dsimp only [note]
  split <;> rfl

theorem tellAll_run (listeners : List Listener) (job : Value) (polls : Nat) (status : Status)
    (elapsed : Rat) : ∀ trace : Trace,
      tellAll listeners job polls status elapsed remote trace =
        (.ok (), trace.tell listeners job polls status elapsed) := by
  induction listeners with
  | nil =>
      intro trace
      unfold Trace.tell
      rw [List.map_nil, List.append_nil]
      rfl
  | cons l rest ih =>
      intro trace
      show ((do
        let _ ← Exchange.attempt (l.tell job polls status elapsed)
        pure () : Exchange Unit) >>= fun _ =>
          tellAll rest job polls status elapsed) remote trace = _
      rw [bind_run, attempt_tell_run]
      dsimp only
      rw [ih]
      simp [Trace.tell]

/-- A trace after a poll that gives a status, the listeners having been told. -/
def PollPlan.told (plan : PollPlan) (c : Connection) (job profile : Value) (start : Rat)
    (remote : Remote) (polls : Nat) (status : Status) (trace : Trace) : Trace :=
  (trace.ask remote (c.statusRequest profile)).tell plan.listeners job polls status
    ((trace.ask remote (c.statusRequest profile)).clock - start)

/-- A round of a wait, by the trace: a poll, after which the listeners are told unless the poll
fails, and the wait ends, is given up or goes on after a pause. -/
theorem waitFrom_round (c : Connection) (plan : PollPlan) {job profile : Value}
    (known : profileNumber job = .ok profile) (start : Rat) (left polls : Nat) (trace : Trace) :
    waitFrom c plan job start (left + 1) polls remote trace =
      match c.statusOf (remote.reply (trace.sent ++ [c.statusRequest profile])).answer with
      | .error fault => (.error fault, trace.ask remote (c.statusRequest profile))
      | .ok status =>
          let told := plan.told c job profile start remote polls status trace
          if status.isTerminal then (.ok status, told)
          else
            match timeUp plan.timeout (told.clock - start) with
            | .error fault => (.error fault, told)
            | .ok true => (.error (.timedOut job.shown (told.clock - start)), told)
            | .ok false =>
                if plan.cancel.any (· polls) then (.error (.cancelled job.shown), told)
                else
                  (Exchange.pause plan.interval >>= fun _ =>
                    waitFrom c plan job start left (polls + 1)) remote told := by
  -- the recursive call on the right stays folded
  conv_lhs => unfold waitFrom
  rw [bind_run, fetchStatus_run c known]
  cases c.statusOf (remote.reply (trace.sent ++ [c.statusRequest profile])).answer with
  | error fault => rfl
  | ok status =>
      unfold PollPlan.told
      generalize trace.ask remote (c.statusRequest profile) = asked
      show (tellAll plan.listeners job polls status (asked.clock - start) >>= _) remote asked = _
      rw [bind_run, tellAll_run]
      dsimp only [Trace.tell]
      split
      · rfl
      · rw [bind_run]
        rcases timeUp plan.timeout (asked.clock - start) with fault | _ | _
        · rfl
        · cases plan.cancel.any (· polls) <;> rfl
        · rfl

/-! ### The rounds of a wait that ends well -/

/-- A wait goes on after its listeners have been told about a poll. -/
structure GoesOn (plan : PollPlan) (remote : Remote) (start : Rat) (polls : Nat) (polled : Status)
    (told paused : Trace) : Prop where
  unended : polled.isTerminal = false
  in_time : timeUp plan.timeout (told.clock - start) = .ok false
  wanted : plan.cancel.any (· polls) = false
  pauses : Exchange.pause plan.interval remote told = (.ok (), paused)

/-- So many rounds of a wait, from a poll on: in each but the last one the wait goes on, and the
last poll gives the status that it ends with. -/
inductive Rounds (c : Connection) (plan : PollPlan) (job profile : Value) (start : Rat)
    (remote : Remote) : Nat → Nat → Trace → Status → Trace → Prop
  | last {polls : Nat} {trace : Trace} {status : Status} :
      c.statusOf (remote.reply (trace.sent ++ [c.statusRequest profile])).answer = .ok status →
      status.isTerminal = true →
      Rounds c plan job profile start remote 1 polls trace status
        (plan.told c job profile start remote polls status trace)
  | more {n polls : Nat} {trace paused after : Trace} {polled status : Status} :
      c.statusOf (remote.reply (trace.sent ++ [c.statusRequest profile])).answer = .ok polled →
      GoesOn plan remote start polls polled
        (plan.told c job profile start remote polls polled trace) paused →
      Rounds c plan job profile start remote n (polls + 1) paused status after →
      Rounds c plan job profile start remote (n + 1) polls trace status after

section rounds

variable {c : Connection} {plan : PollPlan} {job profile : Value} {start : Rat}

theorem Rounds.of_waitFrom (known : profileNumber job = .ok profile) : ∀ {left polls : Nat}
    {trace after : Trace} {status : Status},
      waitFrom c plan job start left polls remote trace = (.ok status, after) →
        ∃ n ≤ left, Rounds c plan job profile start remote n polls trace status after
  | 0, _, _, _, _, run => by cases run
  | left + 1, polls, trace, after, status, run => by
      rw [waitFrom_round c plan known] at run
      dsimp only at run
      split at run
      case h_1 => cases run
      case h_2 polled answer =>
      split at run
      case isTrue ended =>
        cases run
        exact ⟨1, by omega, .last answer ended⟩
      case isFalse unended =>
      split at run
      case h_1 => cases run
      case h_2 => cases run
      case h_3 in_time =>
      split at run
      case isTrue => cases run
      case isFalse wanted =>
      obtain ⟨_, paused, pauses, run⟩ := bind_eq_ok.mp run
      obtain ⟨n, few, rounds⟩ := Rounds.of_waitFrom known run
      have goes : GoesOn plan remote start polls polled _ paused :=
        ⟨Bool.eq_false_iff.mpr unended, in_time, Bool.eq_false_iff.mpr wanted, pauses⟩
      exact ⟨n + 1, by omega, .more answer goes rounds⟩

theorem Rounds.waitFrom_eq (known : profileNumber job = .ok profile) {n polls : Nat}
    {trace after : Trace} {status : Status}
    (rounds : Rounds c plan job profile start remote n polls trace status after) :
    ∀ {left : Nat}, n ≤ left →
      waitFrom c plan job start left polls remote trace = (.ok status, after) := by
  -- what is left of the horizon shrinks with the rounds
  induction rounds with
  | last answer ended =>
      intro left few
      obtain ⟨left, rfl⟩ := Nat.exists_eq_add_of_le' few
      rw [waitFrom_round c plan known, answer]
      exact if_pos ended
  | more answer goes _ ih =>
      intro left few
      obtain ⟨left, rfl⟩ := Nat.exists_eq_add_of_le' (show 1 ≤ left by omega)
      rw [waitFrom_round c plan known, answer]
      dsimp only
      rw [goes.unended, goes.in_time, goes.wanted]
      exact bind_eq_ok.mpr ⟨(), _, goes.pauses, ih (by omega)⟩

theorem pause_eq_ok {seconds : Value} {trace after : Trace} :
    Exchange.pause seconds remote trace = (.ok (), after) ↔
      ∃ s, seconds.number?.bind Number.toRat? = some s ∧ after =
        { trace with
          clock := trace.clock + s + remote.oversleep trace.pauses.length
          pauses := trace.pauses ++ [seconds] } := by
  unfold Exchange.pause
  split
  case h_1 s found => simp [found, eq_comm]
  case h_2 none_ => simp [none_]

theorem Rounds.sent_eq {n polls : Nat} {trace after : Trace} {status : Status}
    (rounds : Rounds c plan job profile start remote n polls trace status after) :
    after.sent = trace.sent ++ List.replicate n (c.statusRequest profile) := by
  induction rounds with
  | last => rfl
  | more _ goes _ ih =>
      obtain ⟨s, -, rfl⟩ := pause_eq_ok.mp goes.pauses
      rw [ih, List.replicate_succ]
      simp [PollPlan.told, Trace.tell, Trace.ask]

theorem Rounds.pos {n polls : Nat} {trace after : Trace} {status : Status}
    (rounds : Rounds c plan job profile start remote n polls trace status after) : 0 < n := by
  cases rounds with
  | last => exact Nat.one_pos
  | more => exact Nat.succ_pos _

theorem PollPlan.told_mute {polls : Nat} {status status' : Status} {trace trace' : Trace}
    (quiet : trace'.mute = trace.mute)
    (took : (remote'.reply (trace.sent ++ [c.statusRequest profile])).took =
      (remote.reply (trace.sent ++ [c.statusRequest profile])).took) :
    (plan.told c job profile start remote' polls status' trace').mute =
      (plan.told c job profile start remote polls status trace).mute :=
  Trace.ask_mute quiet took

theorem GoesOn.unmoved {polls : Nat} {polled : Status} {told told' paused : Trace}
    (goes : GoesOn plan remote start polls polled told paused)
    (oversleep : remote'.oversleep = remote.oversleep) (quiet : told'.mute = told.mute) :
    ∃ paused', GoesOn plan remote' start polls polled told' paused' ∧
      paused'.mute = paused.mute := by
  obtain ⟨unended, in_time, wanted, pauses⟩ := goes
  obtain ⟨s, seconds, rfl⟩ := pause_eq_ok.mp pauses
  obtain ⟨notices, rfl⟩ := Trace.eq_of_mute quiet
  refine ⟨_, ⟨unended, in_time, wanted, pause_eq_ok.mpr ⟨s, seconds, rfl⟩⟩, ?_⟩
  unfold Trace.mute
  dsimp only
  rw [oversleep]

/-- If the server answers only the last poll differently, and with a status that ends the wait, the
wait goes through as many rounds and ends with this status. -/
theorem Rounds.unmoved {n polls : Nat} {trace after : Trace} {status status' : Status}
    (rounds : Rounds c plan job profile start remote n polls trace status after)
    (same : Remote.SameBut after.sent remote remote')
    (answered : c.statusOf (remote'.reply after.sent).answer = .ok status')
    (ended : status'.isTerminal = true) : ∀ {trace' : Trace}, trace'.mute = trace.mute →
      ∃ after', Rounds c plan job profile start remote' n polls trace' status' after' ∧
        after'.mute = after.mute := by
  induction rounds with
  | @last polls trace status =>
      intro trace' quiet
      have sent := Trace.sent_eq_of_mute quiet
      refine ⟨_, .last ?_ ended, PollPlan.told_mute quiet same.took⟩
      rw [sent]
      exact answered
  | @more n polls trace paused after polled status answer goes rounds ih =>
      intro trace' quiet
      have sent := Trace.sent_eq_of_mute quiet
      -- the wait polls again, so this is not the last poll
      have other : trace.sent ++ [c.statusRequest profile] ≠ after.sent := by
        intro last
        have length := congrArg List.length (rounds.sent_eq.symm.trans last.symm)
        have pos := rounds.pos
        obtain ⟨s, -, rfl⟩ := pause_eq_ok.mp goes.pauses
        simp [PollPlan.told, Trace.tell, Trace.ask] at length
        omega
      have kept := same.reply _ other
      obtain ⟨paused', goes', quiet'⟩ := goes.unmoved same.oversleep
        (PollPlan.told_mute quiet (congrArg Reply.took kept))
      obtain ⟨after', rounds', quiet'⟩ := ih same answered quiet'
      refine ⟨after', .more ?_ goes' rounds', quiet'⟩
      rw [sent, kept]
      exact answer

theorem waitFrom_known : ∀ {left polls : Nat} {trace after : Trace} {status : Status},
    waitFrom c plan job start left polls remote trace = (.ok status, after) →
      ∃ profile, profileNumber job = .ok profile
  | 0, _, _, _, _, run => by cases run
  | left + 1, polls, trace, after, status, run => by
      unfold waitFrom at run
      obtain ⟨polled, asked, poll, -⟩ := bind_eq_ok.mp run
      rw [fetchStatus_eq] at poll
      obtain ⟨profile, _, known, -⟩ := bind_eq_ok.mp poll
      exact ⟨profile, congrArg Prod.fst known⟩

/-- A wait ends well exactly if it goes through rounds, and is followed for as many. -/
theorem wait_eq_ok {trace after : Trace} {status : Status} :
    wait c plan job remote trace = (.ok status, after) ↔
      ∃ profile n, profileNumber job = .ok profile ∧ n ≤ remote.horizon ∧
        Rounds c plan job profile trace.clock remote n 1 trace status after := by
  show waitFrom c plan job trace.clock remote.horizon 1 remote trace = _ ↔ _
  constructor
  · intro run
    obtain ⟨profile, known⟩ := waitFrom_known run
    obtain ⟨n, few, rounds⟩ := Rounds.of_waitFrom known run
    exact ⟨profile, n, known, few, rounds⟩
  · rintro ⟨profile, n, known, few, rounds⟩
    exact rounds.waitFrom_eq known few

/-- If the server answers only the last poll of a wait differently, and with a status that ends the
wait, the wait ends with this status, and nothing else is different but what the listeners are
told. -/
theorem wait_unmoved {trace trace' after : Trace} {status status' : Status}
    (run : wait c plan job remote trace = (.ok status, after))
    (same : Remote.SameBut after.sent remote remote')
    (answered : c.statusOf (remote'.reply after.sent).answer = .ok status')
    (ended : status'.isTerminal = true) (quiet : trace'.mute = trace.mute) :
    ∃ after', wait c plan job remote' trace' = (.ok status', after') ∧
      after'.mute = after.mute := by
  obtain ⟨profile, n, known, few, rounds⟩ := wait_eq_ok.mp run
  obtain ⟨after', rounds', quiet'⟩ := rounds.unmoved same answered ended quiet
  obtain ⟨told, rfl⟩ := Trace.eq_of_mute quiet
  rw [← same.horizon] at few
  exact ⟨after', wait_eq_ok.mpr ⟨profile, n, known, few, rounds'⟩, quiet'⟩

end rounds

end NodeInventory
