import NodeInventory.Proofs.Discovery.Waiting
import Mathlib.Algebra.Order.Ring.Rat
import Mathlib.Tactic.Linarith
import Mathlib.Tactic.Ring

/-!
# The polls of a wait

What a wait does follows from what its polls find.  A `Watch` says beforehand, from the server's
replies alone, which status each poll is answered with and when (`Watch.status`, `Watch.elapsed`),
whether the poll ends the wait and how (`Watch.EndsAt`), and what has happened by then
(`Watch.after`).  The wait runs to the first poll that ends it, and does just that
(`wait_to_first_end`).
-/

namespace NodeInventory

open Exchange

/-! ### Timeouts -/

/-- A number is no greater than a rational one. -/
def Number.AtMost (x : Rat) : Number → Prop
  | .nan => False
  | .infinite negative => negative = true
  | .finite negative magnitude => (if negative then -magnitude else magnitude) ≤ x

theorem signed_abs (x : Rat) : (if decide (x < 0) then -x.abs else x.abs) = x := by
  unfold Rat.abs
  by_cases below : x < 0
  · simp [below, not_le.mpr below]
  · simp [below, not_lt.mp below]

theorem Number.ofInt_atMost {n : Int} {x : Rat} : (ofInt n).AtMost x ↔ (n : Rat) ≤ x := by
  show (if decide (n < 0) then -(n.natAbs : Rat) else n.natAbs) ≤ x ↔ _
  rw [signed_natAbs]

theorem Number.le_iff_atMost {limit : Number} {x : Rat} :
    limit.le (.finite (decide (x < 0)) x.abs) = true ↔ limit.AtMost x := by
  cases limit with
  | nan => exact iff_of_false nofun id
  | infinite negative => cases negative <;> simp [le, lt, AtMost]
  | finite negative magnitude =>
      unfold le lt AtMost
      dsimp only
      rw [signed_abs]
      simp

/-- The time of a wait is up after some seconds. -/
def PollPlan.TimeUp (plan : PollPlan) (elapsed : Rat) : Prop :=
  ∃ limit, plan.timeout.number? = some limit ∧ limit.AtMost elapsed

theorem timeUp_eq_true {plan : PollPlan} {elapsed : Rat} (up : plan.TimeUp elapsed) :
    timeUp plan.timeout elapsed = .ok true := by
  obtain ⟨limit, found, reached⟩ := up
  have bounded : plan.timeout.isNull = false := by
    cases bound : plan.timeout with
    | null =>
        rw [bound] at found
        cases found
    | _ => rfl
  unfold timeUp
  rw [bounded, if_neg Bool.false_ne_true, found]
  exact congrArg Except.ok (Number.le_iff_atMost.mpr reached)

theorem timeUp_eq_false {plan : PollPlan} {elapsed : Rat}
    (bounded : plan.timeout = .null ∨ plan.timeout.number?.isSome = true)
    (left : ¬ plan.TimeUp elapsed) : timeUp plan.timeout elapsed = .ok false := by
  unfold timeUp
  split
  case isTrue => rfl
  case isFalse bound =>
  rcases bounded with unbounded | numeric
  · exact absurd (by rw [unbounded]; rfl) bound
  obtain ⟨limit, found⟩ := Option.isSome_iff_exists.mp numeric
  rw [found]
  refine congrArg Except.ok (Bool.eq_false_iff.mpr fun reached => left ?_)
  exact ⟨limit, found, Number.le_iff_atMost.mp reached⟩

/-! ### Polls -/

/-- A wait that is about to begin: the number of its profile, the seconds of its interval, and what
has happened before. -/
structure Watch where
  connection : Connection
  plan : PollPlan
  job : Value
  profile : Value
  seconds : Rat
  remote : Remote
  trace : Trace

namespace Watch

variable (w : Watch)

/-- Pauses can be as long as the interval, and the timeout is a number if there is one. -/
structure Proper : Prop where
  paced : w.plan.interval.number?.bind Number.toRat? = some w.seconds
  bounded : w.plan.timeout = .null ∨ w.plan.timeout.number?.isSome = true

/-- The wait. -/
def run : Outcome Status × Trace := wait w.connection w.plan w.job w.remote w.trace

/-- The request of every poll. -/
def request : Request := w.connection.statusRequest w.profile

/-- The reply to a poll; the first one has the number zero. -/
def reply (n : Nat) : Reply := w.remote.reply (w.trace.sent ++ List.replicate (n + 1) w.request)

/-- The status that a poll finds. -/
def status (n : Nat) : Outcome Status := w.connection.statusOf (w.reply n).answer

/-- The seconds from the start of the wait to a poll, as many pauses having come before it. -/
def began : Nat → Rat
  | 0 => 0
  | n + 1 =>
      began n + (w.reply n).took + w.seconds + w.remote.oversleep (w.trace.pauses.length + n)

/-- The seconds from the start of the wait to the reply to a poll. -/
def elapsed (n : Nat) : Rat := w.began n + (w.reply n).took

/-- The caller gives the wait up at a poll. -/
def Cancelled (n : Nat) : Prop := w.plan.cancel.any (· (n + 1)) = true

/-- How a poll ends the wait: with its own failure, with its status, because the time is up, or
because the caller gives the wait up, where the first of these that holds counts. -/
inductive EndsAt (n : Nat) : Outcome Status → Prop
  | failed {fault : Fault} : w.status n = .error fault → EndsAt n (.error fault)
  | ended {status : Status} : w.status n = .ok status → status ≠ .inProgress →
      EndsAt n (.ok status)
  | timedOut : w.status n = .ok .inProgress → w.plan.TimeUp (w.elapsed n) →
      EndsAt n (.error (.timedOut w.job.shown (w.elapsed n)))
  | cancelled : w.status n = .ok .inProgress → ¬ w.plan.TimeUp (w.elapsed n) → w.Cancelled n →
      EndsAt n (.error (.cancelled w.job.shown))

/-- A poll that does not end the wait. -/
structure GoesOn (n : Nat) : Prop where
  in_progress : w.status n = .ok .inProgress
  in_time : ¬ w.plan.TimeUp (w.elapsed n)
  wanted : ¬ w.Cancelled n

/-- What the listeners are told about a poll: nothing if it fails, and otherwise each of them the
same. -/
def notices (n : Nat) : List Notice :=
  match w.status n with
  | .ok status =>
      w.plan.listeners.map fun l => ⟨l.label, w.job, n + 1, status, w.elapsed n⟩
  | .error _ => []

/-- The trace when a poll is about to begin. -/
def before (n : Nat) : Trace where
  sent := w.trace.sent ++ List.replicate n w.request
  clock := w.trace.clock + w.began n
  pauses := w.trace.pauses ++ List.replicate n w.plan.interval
  notices := w.trace.notices ++ (List.range n).flatMap w.notices

/-- The trace when the listeners have been told about a poll. -/
def after (n : Nat) : Trace where
  sent := w.trace.sent ++ List.replicate (n + 1) w.request
  clock := w.trace.clock + w.elapsed n
  pauses := w.trace.pauses ++ List.replicate n w.plan.interval
  notices := w.trace.notices ++ (List.range (n + 1)).flatMap w.notices

theorem goesOn_or_endsAt (n : Nat) : w.GoesOn n ∨ ∃ outcome, w.EndsAt n outcome := by
  cases polled : w.status n with
  | error fault => exact .inr ⟨_, .failed polled⟩
  | ok status =>
      by_cases ended : status = .inProgress
      case neg => exact .inr ⟨_, .ended polled ended⟩
      subst ended
      by_cases up : w.plan.TimeUp (w.elapsed n)
      case pos => exact .inr ⟨_, .timedOut polled up⟩
      by_cases unwanted : w.Cancelled n
      case pos => exact .inr ⟨_, .cancelled polled up unwanted⟩
      exact .inl ⟨polled, up, unwanted⟩

variable {w}

/-! ### One poll -/

theorem reply_before (n : Nat) :
    w.remote.reply ((w.before n).sent ++ [w.connection.statusRequest w.profile]) = w.reply n := by
  unfold before reply request
  rw [List.append_assoc, ← List.replicate_succ']

theorem ask_before {n : Nat} {fault : Fault} (failed : w.status n = .error fault) :
    (w.before n).ask w.remote (w.connection.statusRequest w.profile) = w.after n := by
  unfold Trace.ask
  rw [reply_before]
  unfold before after
  simp [request, elapsed, List.range_succ, notices, failed, List.replicate_succ', add_assoc]

theorem told_before {n : Nat} {status : Status} (polled : w.status n = .ok status) :
    w.plan.told w.connection w.job w.profile w.trace.clock w.remote (n + 1) status (w.before n) =
      w.after n := by
  unfold PollPlan.told Trace.tell Trace.ask
  rw [reply_before]
  unfold before after
  simp [request, elapsed, List.range_succ, notices, polled, List.replicate_succ', add_assoc]

theorem clock_after (n : Nat) : (w.after n).clock - w.trace.clock = w.elapsed n := by
  simp [after]

/-- A poll that ends the wait is the last one. -/
theorem EndsAt.round {n : Nat} {outcome : Outcome Status} (ends : w.EndsAt n outcome)
    (proper : w.Proper) (known : profileNumber w.job = .ok w.profile) (left : Nat) :
    waitFrom w.connection w.plan w.job w.trace.clock (left + 1) (n + 1) w.remote (w.before n) =
      (outcome, w.after n) := by
  rw [waitFrom_round _ _ known, reply_before, ← status]
  cases ends with
  | failed failed =>
      rw [failed]
      dsimp only
      rw [ask_before failed]
  | ended polled ended =>
      rw [polled]
      dsimp only
      rw [told_before polled]
      exact if_pos (bne_iff_ne.mpr ended)
  | timedOut polled up =>
      rw [polled]
      dsimp only
      rw [told_before polled, clock_after, timeUp_eq_true up]
      rfl
  | cancelled polled in_time unwanted =>
      rw [polled]
      dsimp only
      rw [told_before polled, clock_after, timeUp_eq_false proper.bounded in_time]
      exact if_pos unwanted

/-- After a poll that does not end the wait, it pauses and polls again. -/
theorem GoesOn.round {n : Nat} (goes : w.GoesOn n) (proper : w.Proper)
    (known : profileNumber w.job = .ok w.profile) (left : Nat) :
    waitFrom w.connection w.plan w.job w.trace.clock (left + 1) (n + 1) w.remote (w.before n) =
      waitFrom w.connection w.plan w.job w.trace.clock left (n + 1 + 1) w.remote
        (w.before (n + 1)) := by
  -- the pause leads from the end of this poll to the beginning of the next one
  have pauses : Exchange.pause w.plan.interval w.remote (w.after n) =
      (.ok (), w.before (n + 1)) := by
    refine pause_eq_ok.mpr ⟨w.seconds, proper.paced, ?_⟩
    simp [before, after, began, elapsed, List.replicate_succ', add_assoc]
  rw [waitFrom_round _ _ known, reply_before, ← status, goes.in_progress]
  dsimp only
  rw [told_before goes.in_progress, clock_after, timeUp_eq_false proper.bounded goes.in_time,
    Bool.eq_false_iff.mpr goes.wanted, if_neg (by decide)]
  dsimp only
  rw [if_neg Bool.false_ne_true, bind_run, pauses]

/-! ### All polls -/

theorem before_zero : w.before 0 = w.trace := by simp [before, began]

/-- As long as no poll ends the wait, it polls once after the other. -/
theorem run_eq_waitFrom (proper : w.Proper) (known : profileNumber w.job = .ok w.profile) :
    ∀ (n left : Nat), w.remote.horizon = left + n → (∀ m < n, w.GoesOn m) →
      w.run = waitFrom w.connection w.plan w.job w.trace.clock left (n + 1) w.remote (w.before n)
  | 0, left, horizon, _ => by
      rw [before_zero]
      show waitFrom w.connection w.plan w.job w.trace.clock w.remote.horizon 1 w.remote w.trace = _
      rw [horizon]
      rfl
  | n + 1, left, horizon, goes => by
      -- one poll earlier there was one more left
      rw [run_eq_waitFrom proper known n (left + 1) (by omega) fun m few => goes m (by omega)]
      exact (goes n n.lt_succ_self).round proper known left

/-- A wait for a job whose identifier cannot be read fails before it has asked for anything. -/
theorem run_unknown {fault : Fault} (unknown : profileNumber w.job = .error fault)
    (followed : 0 < w.remote.horizon) : w.run = (.error fault, w.trace) := by
  obtain ⟨left, horizon⟩ := Nat.exists_eq_add_of_le' followed
  show waitFrom w.connection w.plan w.job w.trace.clock w.remote.horizon 1 w.remote w.trace = _
  rw [horizon]
  unfold waitFrom
  rw [bind_run, fetchStatus_eq, askAbout, unknown]
  rfl

end Watch

theorem tellAll_congr {listeners listeners' : List Listener}
    (same : listeners.map Listener.label = listeners'.map Listener.label) :
    tellAll listeners = tellAll listeners' := by
  funext job polls status elapsed remote trace
  have notices := congrArg (List.map fun label => Notice.mk label job polls status elapsed) same
  rw [List.map_map, List.map_map] at notices
  rw [tellAll_run, tellAll_run]
  unfold Trace.tell
  exact congrArg (fun told => (_, { trace with notices := trace.notices ++ told })) notices

/-- A wait does the same whichever listeners fail, and when. -/
theorem waitFrom_listeners (c : Connection) {plan : PollPlan} {listeners : List Listener}
    (same : listeners.map Listener.label = plan.listeners.map Listener.label) (job : Value)
    (start : Rat) : ∀ left polls : Nat,
      waitFrom c { plan with listeners := listeners } job start left polls =
        waitFrom c plan job start left polls
  | 0, _ => rfl
  | left + 1, polls => by
      unfold waitFrom
      simp only [tellAll_congr same, waitFrom_listeners c same job start left (polls + 1)]

/-- A wait runs to the first poll that ends it, and not further: it polls so many times, pauses for
the interval after each poll but the last one, tells every listener about every poll that does not
fail, and ends as the last poll says.  As long as no poll ends it, it goes on for as many polls as it
is followed.  Failing listeners change nothing of this. -/
theorem wait_to_first_end {w : Watch} (proper : w.Proper) :
    (∀ fault, profileNumber w.job = .error fault → 0 < w.remote.horizon →
      w.run = (.error fault, w.trace)) ∧
    (profileNumber w.job = .ok w.profile →
      (∀ n outcome, n < w.remote.horizon → (∀ m < n, w.GoesOn m) → w.EndsAt n outcome →
        w.run = (outcome, w.after n)) ∧
      ((∀ m < w.remote.horizon, w.GoesOn m) →
        w.run = (.error .endless, w.before w.remote.horizon))) ∧
    (∀ n, w.GoesOn n ∨ ∃ outcome, w.EndsAt n outcome) ∧
    ∀ listeners, listeners.map Listener.label = w.plan.listeners.map Listener.label →
      wait w.connection { w.plan with listeners := listeners } w.job w.remote w.trace = w.run := by
  refine ⟨fun _ unknown followed => Watch.run_unknown unknown followed, fun known => ⟨?_, ?_⟩,
    w.goesOn_or_endsAt, ?_⟩
  · intro n outcome few goes ends
    obtain ⟨left, horizon⟩ := Nat.exists_eq_add_of_le' few
    rw [Watch.run_eq_waitFrom proper known n (left + 1) (by omega) goes]
    exact ends.round proper known left
  · intro goes
    rw [Watch.run_eq_waitFrom proper known w.remote.horizon 0 (by omega) goes]
    rfl
  · intro listeners same
    show waitFrom w.connection _ w.job w.trace.clock w.remote.horizon 1 w.remote w.trace = _
    rw [waitFrom_listeners w.connection same]
    rfl

/-- The answer that says that a job is in progress. -/
def inProgressAnswer : String := "\x7b\"results\": [\x7b\"Status\": 1\x7d]\x7d"

/-- A wait for a job that stays in progress, given up at the poll at which its time is up; one of
its two listeners always fails. -/
def idleWatch : Watch where
  connection := { server := .text "orion.test" }
  plan :=
    { timeout := .int 10
      cancel := some fun polls => polls == 3
      listeners := [{ label := "failing", fails := fun _ => true }, { label := "working" }] }
  job := .text "42"
  profile := .int 42
  seconds := 5
  remote := { reply := fun _ => { answer := .response 200 inProgressAnswer }, horizon := 7 }
  trace := {}

theorem idleWatch_proper : idleWatch.Proper where
  paced := by decide +kernel
  bounded := .inr rfl

theorem idleWatch_status (n : Nat) : idleWatch.status n = .ok .inProgress := by
  show idleWatch.connection.statusOf (.response 200 inProgressAnswer) = _
  exact Outcome.eq_ok_of_toOption (by decide +kernel)

theorem idleWatch_elapsed (n : Nat) : idleWatch.elapsed n = 5 * n := by
  have took (n : Nat) : (idleWatch.reply n).took = 0 := rfl
  have oversleep (n : Nat) : idleWatch.remote.oversleep n = 0 := rfl
  have seconds : idleWatch.seconds = 5 := rfl
  unfold Watch.elapsed
  induction n with
  | zero => simp [Watch.began, took]
  | succ n ih =>
      rw [took, add_zero] at ih
      rw [Watch.began, took, took, oversleep, seconds, ih]
      push_cast
      ring

theorem wait_to_first_end_idle :
    idleWatch.Proper ∧ idleWatch.run = (.error (.timedOut "42" 10), idleWatch.after 2) := by
  have goes (m : Nat) (early : m < 2) : idleWatch.GoesOn m := by
    refine ⟨idleWatch_status m, ?_, ?_⟩
    · rintro ⟨limit, found, reached⟩
      cases found
      rw [idleWatch_elapsed, Number.ofInt_atMost] at reached
      have few : (m : Rat) < 2 := by exact_mod_cast early
      push_cast at reached
      linarith
    · show ¬ (m + 1 == 3) = true
      simp only [beq_iff_eq]
      omega
  have elapsed : idleWatch.elapsed 2 = 10 := by
    rw [idleWatch_elapsed]
    norm_num
  have ends : idleWatch.EndsAt 2 (.error (.timedOut "42" (idleWatch.elapsed 2))) :=
    .timedOut (idleWatch_status 2) ⟨_, rfl, Number.ofInt_atMost.mpr (by rw [elapsed]; norm_num)⟩
  rw [elapsed] at ends
  exact ⟨idleWatch_proper,
    ((wait_to_first_end idleWatch_proper).2.1 rfl).1 2 _ (by decide) goes ends⟩

end NodeInventory
