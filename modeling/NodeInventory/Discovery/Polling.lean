import NodeInventory.Discovery.Reference
import NodeInventory.Remote.Client

/-!
# Waiting for a discovery

A wait asks for a job's status, tells the listeners, and ends when the job has; otherwise it ends
when its time is up or its caller gives it up, and else it pauses and asks again.  The job runs on
in any case.  A job that the server no longer knows has ended with a status that is unknown.
-/

namespace NodeInventory

/-- Asks for the status of a profile. -/
def statusQuery : String := "SELECT Status FROM Orion.DiscoveryProfiles WHERE ProfileID = @profileId"

/-- Who is told about every poll, and at which ones it fails. -/
structure Listener where
  label : String
  fails : Nat → Bool := fun _ => false

/-- How a wait is done. -/
structure PollPlan where
  /-- The seconds between polls. -/
  interval : Value := .int 5
  /-- The seconds after which the wait ends, if it is bounded. -/
  timeout : Value := .null
  /-- Whether the caller gives the wait up at a poll, if it ever does. -/
  cancel : Option (Nat → Bool) := none
  listeners : List Listener := []

/-- The status of a job. -/
def fetchStatus (c : Connection) (job : Value) : Exchange Status := do
  let number ← profileNumber job
  let rows ← c.query statusQuery [("profileId", number)]
  if rows.truthy then
    let row ← rows.first
    Status.ofValue (← row.get "Status")
  else pure .unknown

/-- Tells one listener, which may fail. -/
def Listener.tell (l : Listener) (job : Value) (polls : Nat) (status : Status) (elapsed : Rat) :
    Exchange Unit := do
  Exchange.note ⟨l.label, job, polls, status, elapsed⟩
  if l.fails polls then Exchange.fail (.listenerFailed l.label)

/-- Tells every listener; a failure of one stays without effect. -/
def tellAll (listeners : List Listener) (job : Value) (polls : Nat) (status : Status)
    (elapsed : Rat) : Exchange Unit :=
  listeners.forM fun l => do
    let _ ← Exchange.attempt (l.tell job polls status elapsed)

/-- Whether so many seconds use up a timeout. -/
def timeUp (timeout : Value) (elapsed : Rat) : Outcome Bool :=
  if timeout.isNull then .ok false
  else
    match timeout.number? with
    | some limit => .ok (limit.le (.finite (decide (elapsed < 0)) elapsed.abs))
    | none => .error .wrongType

/-- Waits from a poll on, the wait having begun at `start`. -/
def waitFrom (c : Connection) (plan : PollPlan) (job : Value) (start : Rat) :
    Nat → Nat → Exchange Status
  | 0, _ => Exchange.fail .endless
  | left + 1, polls => do
      let status ← fetchStatus c job
      let elapsed := (← Exchange.clock) - start
      tellAll plan.listeners job polls status elapsed
      if status.isTerminal then pure status
      else if ← timeUp plan.timeout elapsed then Exchange.fail (.timedOut job.shown elapsed)
      else if plan.cancel.any (· polls) then Exchange.fail (.cancelled job.shown)
      else do
        Exchange.pause plan.interval
        waitFrom c plan job start left (polls + 1)

/-- Waits until a job has ended and returns its status. -/
def wait (c : Connection) (plan : PollPlan) (job : Value) : Exchange Status := do
  let start ← Exchange.clock
  waitFrom c plan job start (← Exchange.horizon) 1

end NodeInventory
