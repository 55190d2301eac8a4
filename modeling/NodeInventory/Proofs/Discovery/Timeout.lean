import NodeInventory.Proofs.Discovery.Polls
import Mathlib.Algebra.Order.Floor.Semiring
import Mathlib.Data.Rat.Floor

/-!
# Waits with a timeout

A wait with a timeout ends whatever the server answers.  Before a poll there have been as many
pauses as polls, and each of them takes at least the interval, so that the time is up by the poll
whose number is the timeout divided by the interval, rounded up (`Watch.Timed.timeUp`).  No wait
goes on for longer, and a wait for a job that stays in progress goes on for just as long when
nothing but the pauses takes time: `wait_within_timeout`.
-/

namespace NodeInventory

namespace Watch

/-- A wait with whole numbers of seconds between its polls and up to its timeout, by a clock that
never goes back and does not stop before a pause is over. -/
structure Timed (w : Watch) (interval timeout : Nat) : Prop where
  paced : w.plan.interval = .int interval
  bounded : w.plan.timeout = .int timeout
  seconds : w.seconds = interval
  positive : 0 < interval
  profile : ∀ profile, profileNumber w.job = .ok profile → profile = w.profile
  took : ∀ n, 0 ≤ (w.reply n).took
  overslept : ∀ n, 0 ≤ w.remote.oversleep n

/-- A wait for a job that stays in progress, given up by nobody, in which nothing but the pauses
takes time, and these just as long as asked for. -/
structure Idle (w : Watch) : Prop where
  known : profileNumber w.job = .ok w.profile
  in_progress : ∀ n, w.status n = .ok .inProgress
  wanted : ∀ n, ¬ w.Cancelled n
  took : ∀ n, (w.reply n).took = 0
  overslept : ∀ n, w.remote.oversleep n = 0

/-- The number of the poll by which the time is up, the first one being zero. -/
def lastPoll (interval timeout : Nat) : Nat := ⌈(timeout : Rat) / interval⌉₊

variable {w : Watch} {interval timeout : Nat}

/-! ### The time of the polls -/

theorem lastPoll_le_iff (positive : 0 < interval) {n : Nat} :
    lastPoll interval timeout ≤ n ↔ (timeout : Rat) ≤ n * interval := by
  have seconds : (0 : Rat) < interval := by exact_mod_cast positive
  unfold lastPoll
  rw [Nat.ceil_le, div_le_iff₀ seconds]

theorem Timed.mul_le_began (timed : w.Timed interval timeout) (n : Nat) :
    (n * interval : Rat) ≤ w.began n := by
  induction n with
  | zero => simp [began]
  | succ n ih =>
      have took := timed.took n
      have overslept := timed.overslept (w.trace.pauses.length + n)
      unfold began
      rw [timed.seconds]
      push_cast
      linarith

theorem Timed.timeUp_iff (timed : w.Timed interval timeout) {elapsed : Rat} :
    w.plan.TimeUp elapsed ↔ (timeout : Rat) ≤ elapsed := by
  unfold PollPlan.TimeUp
  rw [timed.bounded]
  simp [Value.number?, Number.ofInt_atMost]

theorem Timed.timeUp (timed : w.Timed interval timeout) {n : Nat}
    (late : lastPoll interval timeout ≤ n) : w.plan.TimeUp (w.elapsed n) := by
  rw [timed.timeUp_iff]
  calc (timeout : Rat)
      ≤ n * interval := (lastPoll_le_iff timed.positive).mp late
    _ ≤ w.began n := timed.mul_le_began n
    _ ≤ w.elapsed n := le_add_of_nonneg_right (timed.took n)

theorem Timed.proper (timed : w.Timed interval timeout) : w.Proper where
  paced := by
    rw [timed.paced, timed.seconds]
    rfl
  bounded := by
    rw [timed.bounded]
    exact .inr rfl

/-- Some poll up to the last one is the first that ends the wait. -/
theorem Timed.first_end (timed : w.Timed interval timeout) :
    ∃ n ≤ lastPoll interval timeout, (∀ m < n, w.GoesOn m) ∧ ∃ outcome, w.EndsAt n outcome := by
  classical
  have up := timed.timeUp le_rfl
  have found : ∃ n, ¬ w.GoesOn n := ⟨_, fun goes => goes.in_time up⟩
  refine ⟨Nat.find found, Nat.find_min' found fun goes => goes.in_time up, ?_, ?_⟩
  · intro m early
    exact not_not.mp (Nat.find_min found early)
  · exact (w.goesOn_or_endsAt _).resolve_left (Nat.find_spec found)

theorem Idle.elapsed_eq (idle : w.Idle) (timed : w.Timed interval timeout) (n : Nat) :
    w.elapsed n = n * interval := by
  have began : w.began n = n * interval := by
    induction n with
    | zero => simp [began]
    | succ n ih =>
        unfold Watch.began
        rw [ih, idle.took, idle.overslept, timed.seconds]
        push_cast
        ring
  unfold elapsed
  rw [began, idle.took, add_zero]

/-- A wait for a job that stays in progress goes on until the last poll. -/
theorem Idle.goesOn (idle : w.Idle) (timed : w.Timed interval timeout) {n : Nat}
    (early : n < lastPoll interval timeout) : w.GoesOn n where
  in_progress := idle.in_progress n
  in_time := by
    rw [timed.timeUp_iff, idle.elapsed_eq timed, ← lastPoll_le_iff timed.positive]
    exact not_le.mpr early
  wanted := idle.wanted n

/-! ### How far a wait is followed

It makes no difference to what the polls find, and when. -/

/-- The same wait, followed for another number of polls. -/
def followed (w : Watch) (horizon : Nat) : Watch :=
  { w with remote := { w.remote with horizon := horizon } }

theorem elapsed_followed (w : Watch) (horizon : Nat) : (w.followed horizon).elapsed = w.elapsed := by
  have began (n : Nat) : (w.followed horizon).began n = w.began n := by
    induction n with
    | zero => rfl
    | succ n ih =>
        unfold Watch.began
        rw [ih]
        rfl
  funext n
  unfold elapsed
  rw [began]
  rfl

theorem GoesOn.followed {n : Nat} (goes : w.GoesOn n) (horizon : Nat) :
    (w.followed horizon).GoesOn n where
  in_progress := goes.in_progress
  in_time := by
    rw [elapsed_followed]
    exact goes.in_time
  wanted := goes.wanted

theorem EndsAt.followed {n : Nat} {outcome : Outcome Status} (ends : w.EndsAt n outcome)
    (horizon : Nat) : (w.followed horizon).EndsAt n outcome := by
  have elapsed := congrFun (elapsed_followed w horizon) n
  cases ends with
  | failed failed => exact .failed failed
  | ended polled ended => exact .ended polled ended
  | timedOut polled up =>
      rw [← elapsed] at up ⊢
      exact .timedOut polled up
  | cancelled polled in_time unwanted =>
      rw [← elapsed] at in_time
      exact .cancelled polled in_time unwanted

theorem after_followed (w : Watch) (horizon n : Nat) : (w.followed horizon).after n = w.after n := by
  unfold after notices
  rw [elapsed_followed]
  rfl

/-- A wait that is followed beyond the first poll that ends it runs to this poll. -/
theorem EndsAt.run_followed {n horizon : Nat} {outcome : Outcome Status} (proper : w.Proper)
    (known : profileNumber w.job = .ok w.profile) (goes : ∀ m < n, w.GoesOn m)
    (ends : w.EndsAt n outcome) (few : n < horizon) :
    (w.followed horizon).run = (outcome, w.after n) := by
  obtain ⟨left, rfl⟩ := Nat.exists_eq_add_of_le' few
  have proper_ : (w.followed (left + (n + 1))).Proper := ⟨proper.paced, proper.bounded⟩
  rw [run_eq_waitFrom proper_ known n (left + 1) (by show left + (n + 1) = _; omega)
    fun m early => (goes m early).followed _, ← after_followed w (left + (n + 1))]
  exact (ends.followed _).round proper_ known left

end Watch

/-- A wait with a timeout ends, however far it is followed, with at most one poll more than the
timeout has intervals, rounded up.  If the job stays in progress and only the pauses take time, it
takes just as many polls, and then the time is up. -/
theorem wait_within_timeout {w : Watch} {interval timeout : Nat}
    (timed : w.Timed interval timeout) :
    (∃ (polls : Nat) (outcome : Outcome Status) (after : Trace),
      polls ≤ ⌈(timeout : Rat) / interval⌉₊ + 1 ∧
      after.sent = w.trace.sent ++ List.replicate polls w.request ∧
      ∀ horizon, polls < horizon → (w.followed horizon).run = (outcome, after)) ∧
    (w.Idle → ∃ after : Trace,
      after.sent =
        w.trace.sent ++ List.replicate (⌈(timeout : Rat) / interval⌉₊ + 1) w.request ∧
      ∀ horizon, ⌈(timeout : Rat) / interval⌉₊ < horizon → (w.followed horizon).run =
        (.error (.timedOut w.job.shown (⌈(timeout : Rat) / interval⌉₊ * interval)), after)) := by
  refine ⟨?_, fun idle => ?_⟩
  · cases known : profileNumber w.job with
    | error fault =>
        -- a job whose identifier cannot be read is not asked about
        refine ⟨0, .error fault, w.trace, Nat.zero_le _, by simp, fun horizon followed => ?_⟩
        exact Watch.run_unknown (w := w.followed horizon) known followed
    | ok profile =>
        rw [timed.profile profile known] at known
        obtain ⟨n, few, goes, outcome, ends⟩ := timed.first_end
        refine ⟨n + 1, outcome, w.after n, Nat.succ_le_succ few, rfl, fun horizon followed => ?_⟩
        exact ends.run_followed timed.proper known goes (by omega)
  · have goes (m : Nat) (early : m < Watch.lastPoll interval timeout) : w.GoesOn m :=
      idle.goesOn timed early
    have ends := Watch.EndsAt.timedOut (idle.in_progress _) (timed.timeUp le_rfl)
    rw [idle.elapsed_eq timed] at ends
    exact ⟨w.after (Watch.lastPoll interval timeout), rfl,
      fun horizon followed => ends.run_followed timed.proper idle.known goes followed⟩

/-- A wait for a job that stays in progress, polled every three seconds for ten seconds. -/
def steadyWatch : Watch :=
  { idleWatch with plan := { interval := .int 3, timeout := .int 10 }, seconds := 3 }

theorem wait_within_timeout_steady :
    steadyWatch.Timed 3 10 ∧ steadyWatch.Idle ∧ ∃ after : Trace,
      after.sent = List.replicate 5 steadyWatch.request ∧
      ∀ horizon, 4 < horizon →
        (steadyWatch.followed horizon).run = (.error (.timedOut "42" 12), after) := by
  have known : profileNumber steadyWatch.job = .ok steadyWatch.profile := rfl
  have timed : steadyWatch.Timed 3 10 :=
    { paced := rfl
      bounded := rfl
      seconds := rfl
      positive := by decide
      profile := fun profile read => Except.ok.inj (read.symm.trans known)
      took := fun _ => le_rfl
      overslept := fun _ => le_rfl }
  have idle : steadyWatch.Idle :=
    { known := known
      in_progress := idleWatch_status
      wanted := nofun
      took := fun _ => rfl
      overslept := fun _ => rfl }
  have intervals : ⌈((10 : Nat) : Rat) / (3 : Nat)⌉₊ = 4 := by
    rw [Nat.ceil_eq_iff (by decide)]
    norm_num
  obtain ⟨after, sent, run⟩ := (wait_within_timeout timed).2 idle
  rw [intervals] at sent run
  have seconds : (((4 : Nat) : Rat) * (3 : Nat)) = 12 := by norm_num
  rw [seconds] at run
  exact ⟨timed, idle, after, sent, run⟩

end NodeInventory
